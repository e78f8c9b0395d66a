import Mathlib
import Almanac.Proofs.Calendar.Cycle
import Almanac.Proofs.Checked.Start
import Almanac.Proofs.Instant.Fraction

/-!
# Moves in 64 bits

The way from an instant to one that is an amount of a unit away, step by step. Amounts within their
limit are at most a million million, and of a unit of less than a year they move a local time by less
than `8 * 10 ^ 12` days. In a cycle a number turns round in what holds it, which is never empty.

* `Checked.clamp`, `Checked.turn`: numbers held to bounds, and numbers moved in a cycle.
* `Checked.moveToDay`, `Checked.moveToMonth?`, `Checked.carry?`: amounts that carry.
* `Checked.cycleDay` to `Checked.cycleWeek`, `Checked.cycle?`: amounts that cycle.
* **`Checked.add?_eq`**: no step overflows, and none has a divisor that is zero.
* **`Checked.add?_eq_of_isInner`**: in fixed zones, a cyclic move by days needs inner instants only.
-/

namespace Almanac

namespace Checked

open LocalTime

/-! ## Numbers -/

/-- A number held to an interval, which must not be empty. -/
def clamp (low high n : ℤ) : Checked ℤ :=
  if low ≤ high then value (max low (min high n)) else overflow

theorem clamp_eq {low high : ℤ} (h : low ≤ high) (n : ℤ) :
    clamp low high n = value (max low (min high n)) := if_pos h

/-- By how much a number from `0` moves if it goes round below `count`. -/
def turn (number count amount : ℤ) : Checked ℤ := emod (number + amount) count - number

theorem turn_eq {number count amount : ℤ} (hnumber : number.natAbs < 10 ^ 15)
    (hcount : 0 < count ∧ count < 10 ^ 15) (hamount : amount.natAbs < 10 ^ 15) :
    turn number count amount = value ((number + amount) % count - number) := by
  have hmem := emod_mem (number + amount) hcount.1
  simp (disch := omega) only [turn, add_eq, emod_eq, sub_eq]

/-- The remainder by `7` that is not negative, from the one that is cut off towards zero. -/
def madeUp (n : ℤ) : Checked ℤ := do
  let rest : ℤ ← n % 7
  if rest < 0 then rest + 7 else rest

theorem madeUp_eq (n : ℤ) : madeUp n = value (n % 7) := by
  have hrest : (n % 7 : Checked ℤ) = value (n.tmod 7) := divided_eq _ (by decide)
  have hmem : -7 < n.tmod 7 ∧ n.tmod 7 < 7 :=
    ⟨Int.lt_tmod_of_pos n (by decide), Int.tmod_lt_of_pos n (by decide)⟩
  have hemod : n.tmod 7 = n % 7 - ((if 0 ≤ n ∨ 7 ∣ n then 0 else 7 : ℕ) : ℤ) := Int.tmod_eq_emod
  rw [madeUp, hrest, value_bind]
  split
  · simp (disch := omega) only [ofNat_eq, add_eq, value.injEq]
    split at hemod <;> omega
  · rw [value.injEq]
    split at hemod <;> omega

/-! ## Amounts that carry -/

section Steps

variable (cal : Calendar) (l : LocalTime)

/-- The instant of the same time of day on another day. -/
def moveToDay (dayNumber : ℤ) : Checked Instant :=
  instantOf cal dayNumber l.secondOfDay l.nanosecond {}

/-- The instant of the same time of day some days later. -/
def moveByDays (days : ℤ) : Checked (Option Instant) := do
  let dayNumber : ℤ ← l.dayNumber + days
  some <$> moveToDay cal l dayNumber

/-- The instant of the same time in a month counted on from `year`, if its year is allowed. -/
def moveToMonth? (year month : ℤ) : Checked (Option Instant) := do
  let folded ← foldMonth year month
  if IsYearSized folded.1 then do
    let length ← monthLength folded.1 folded.2
    andThen (dayNumber? folded.1 folded.2 (min l.date.day length)) (moveToDay cal l)
  else value none

/-- The instant of the same time in a numbered week of a week year, if this year is allowed. -/
def moveToWeek? (weekYear week weekday : ℤ) : Checked (Option Instant) :=
  andThen (dayNumber? weekYear 1 1) fun start => do
    moveToDay cal l (← dayAt cal.weeks start week weekday)

/-- The instant moved by an amount of a unit. -/
def carry? (unit : TimeUnit) (amount : ℤ) (t : Instant) : Checked (Option Instant) := do
  let l ← localTime cal t
  match unit with
  | .era => value (some t)
  | .year => do
    let year : ℤ ← l.date.year + amount
    moveToMonth? cal l year l.date.month
  | .quarter => do
    let month : ℤ ← l.date.month + 3 * amount
    moveToMonth? cal l l.date.year month
  | .month => do
    let month : ℤ ← l.date.month + amount
    moveToMonth? cal l l.date.year month
  | .day | .weekday => moveByDays cal l amount
  | .weekOfYear | .weekOfMonth | .weekdayOrdinal => do
    let days : ℤ ← 7 * amount
    moveByDays cal l days
  | .yearForWeekOfYear => do
    let weekday ← weekdayOf l.dayNumber
    let week ← localWeek cal.weeks l
    let weekYear : ℤ ← week.2 + amount
    moveToWeek? cal l weekYear week.1 weekday
  | .hour => do
    let seconds : ℤ ← amount * 3600
    value (some (t + Binary64.ofInt seconds))
  | .minute => do
    let seconds : ℤ ← amount * 60
    value (some (t + Binary64.ofInt seconds))
  | .second => value (some (t + Binary64.ofInt amount))
  | .nanosecond => value (some (t + Binary64.ofInt amount / Binary64.ofInt nanosPerSecond))

/-! ## Amounts that cycle -/

/-- The year moved inside its era. -/
def cycledYear (amount : ℤ) : Checked ℤ := do
  let inEra ← yearOfEra l.date.year
  let moved : ℤ ← (if inEra.1 = 1 then inEra.2 + amount else inEra.2 - amount : Checked ℤ)
  astronomicalYear inEra.1 (max 1 moved)

/-- The days that a day moves in its month. -/
def cycleDay (amount : ℤ) : Checked ℤ := do
  let length ← monthLength l.date.year l.date.month
  let day : ℤ ← emod (l.date.day - 1 + amount) length + 1
  day - l.date.day

/-- The days that a weekday moves in its week. -/
def cycleWeekday (weeks : WeekNumbering) (amount : ℤ) : Checked ℤ := do
  let position ← placeOf weeks (← weekdayOf l.dayNumber)
  turn position 7 amount

/-- The days that a day moves over the same weekdays of its month. -/
def cycleOrdinal (amount : ℤ) : Checked ℤ := do
  let before : ℤ ← (l.date.day - 1) / 7
  let length ← monthLength l.date.year l.date.month
  let after : ℤ ← (length - l.date.day) / 7
  let count : ℤ ← before + after + 1
  7 * turn before count amount

/-- The days that a day moves by weeks inside its month. -/
def cycleWeekOfMonth (weeks : WeekNumbering) (amount : ℤ) : Checked ℤ := do
  let position ← placeOf weeks (← weekdayOf l.dayNumber)
  let firstPosition : ℤ ← emod (position - l.date.day + 1) 7
  let left : ℤ ← 7 - firstPosition
  let start : ℤ ←
    (if left < weeks.minimumDays then 8 - firstPosition else 1 - firstPosition : Checked ℤ)
  let length ← monthLength l.date.year l.date.month
  let lastPosition : ℤ ← (length - l.date.day + position) % 7
  let span : ℤ ← length + 7 - lastPosition - start
  let turned : ℤ ← emod (l.date.day + 7 * amount - start) span + start
  let day ← clamp 1 length turned
  day - l.date.day

/-- The day of the year, counted in the year that the week belongs to. -/
def dayOfWeekYear (week weekYear : ℤ) : Checked ℤ := do
  let day ← dayOfYear l.date
  if l.date.month = 1 then
    if 52 ≤ week then day + yearLength weekYear else day
  else if week = 1 then do
    let yearBefore : ℤ ← weekYear - 1
    day - yearLength yearBefore
  else day

/-- How many weeks a year has, of which the day is counted in this year. -/
def weekCount (weeks : WeekNumbering) (day weekYear : ℤ) : Checked ℤ := do
  let length := yearLength weekYear
  let weekday ← weekdayOf l.dayNumber
  let fromFirst : ℤ ← length - day + weekday - weeks.firstWeekday
  let position ← madeUp fromFirst
  let left : ℤ ← 6 - position
  let lastDay : ℤ ← (if weeks.minimumDays ≤ left then length - 7 else length : Checked ℤ)
  let lastWeekday : ℤ ← position + 1
  weekAt weeks lastDay lastDay lastWeekday

/-- The week of the year moved by `amount`. -/
def cycleWeek (weeks : WeekNumbering) (week weekYear amount : ℤ) : Checked ℤ := do
  let day ← dayOfWeekYear l week weekYear
  let moved : ℤ ← week + amount
  if 1 ≤ moved ∧ moved ≤ 52 then moved
  else do
    let count ← weekCount l weeks day weekYear
    emod (moved - 1) count + 1

/-- The instant moved by an amount of a unit inside the container of the unit. -/
def cycle? (unit : TimeUnit) (amount : ℤ) (t : Instant) : Checked (Option Instant) := do
  let l ← localTime cal t
  match unit with
  | .era => value (some t)
  | .yearForWeekOfYear => carry? cal unit amount t
  | .year => do moveToMonth? cal l (← cycledYear l amount) l.date.month
  | .quarter => do
    let quarter : ℤ ← (l.date.month - 1) / 3
    let place : ℤ ← (l.date.month - 1) % 3
    let month : ℤ ← emod (quarter + amount) 4 * 3 + place + 1
    moveToMonth? cal l l.date.year month
  | .month => do
    let month : ℤ ← emod (l.date.month - 1 + amount) 12 + 1
    moveToMonth? cal l l.date.year month
  | .day => do moveByDays cal l (← cycleDay l amount)
  | .weekday => do moveByDays cal l (← cycleWeekday l cal.weeks amount)
  | .weekdayOrdinal => do moveByDays cal l (← cycleOrdinal l amount)
  | .weekOfMonth => do moveByDays cal l (← cycleWeekOfMonth l cal.weeks amount)
  | .weekOfYear => do
    let weekday ← weekdayOf l.dayNumber
    let week ← localWeek cal.weeks l
    let moved ← cycleWeek l cal.weeks week.1 week.2 amount
    moveToWeek? cal l week.2 moved weekday
  | .hour => do
    let hour : ℤ ← l.secondOfDay / 3600
    let seconds : ℤ ← turn hour 24 amount * 3600
    value (some (t + Binary64.ofInt seconds))
  | .minute => do
    let minute : ℤ ← l.secondOfDay % 3600 / 60
    let seconds : ℤ ← turn minute 60 amount * 60
    value (some (t + Binary64.ofInt seconds))
  | .second => do
    let second : ℤ ← l.secondOfDay % 60
    let seconds ← turn second 60 amount
    value (some (t + Binary64.ofInt seconds))
  | .nanosecond => do
    let moved : ℤ ← (l.nanosecond + amount) % nanosPerSecond
    let nanos : ℤ ← moved - l.nanosecond
    value (some (t + Binary64.ofInt nanos / Binary64.ofInt nanosPerSecond))

/-- The instant moved by an amount of a unit, carrying or in a cycle. -/
def add? (unit : TimeUnit) (amount : ℤ) (t : Instant) (wrap : Bool) : Checked (Option Instant) :=
  if amount = 0 then value (some t)
  else if IsFieldSized amount then
    if wrap then cycle? cal unit amount t else carry? cal unit amount t
  else value none

end Steps

/-! ## Exact steps -/

section Exact

variable {weeks : WeekNumbering} {reading amount week weekYear : ℤ}

section Amount

variable (hamount : amount.natAbs ≤ 10 ^ 12)
include hamount

theorem cycleDay_eq : cycleDay (ofReading reading) amount =
    value ((ofReading reading).cycleDay amount - (ofReading reading).dayNumber) := by
  have hday := (date_isValid reading).day_mem
  have hlength := monthLength_mem (ofReading reading).date.year (ofReading reading).date.month
  rw [cycleDay, monthLength_eq, value_bind, LocalTime.cycleDay, LocalTime.monthLength]
  generalize Almanac.monthLength _ _ = length at *
  have hmem := emod_mem ((ofReading reading).date.day - 1 + amount) (show 0 < length by omega)
  simp (disch := omega) only [ofNat_eq, sub_eq, add_eq, emod_eq, value_bind, value.injEq]
  omega

theorem cycleOrdinal_eq : cycleOrdinal (ofReading reading) amount =
    value ((ofReading reading).cycleOrdinal amount - (ofReading reading).dayNumber) := by
  have hday := (date_isValid reading).day_mem
  have hlength := monthLength_mem (ofReading reading).date.year (ofReading reading).date.month
  rw [cycleOrdinal, LocalTime.cycleOrdinal, LocalTime.monthLength]
  simp (disch := omega) only [ofNat_eq, sub_eq, div_eq, value_bind, monthLength_eq, add_eq, turn_eq]
  generalize Almanac.monthLength _ _ = length at *
  have hmem := emod_mem (((ofReading reading).date.day - 1) / 7 + amount)
    (show 0 < ((ofReading reading).date.day - 1) / 7 +
      (length - (ofReading reading).date.day) / 7 + 1 by omega)
  simp (disch := omega) only [mul_eq, value.injEq]
  omega

variable (hr : reading.natAbs < 2 ^ 63)
include hr

theorem cycledYear_eq : cycledYear (ofReading reading) amount =
    value ((ofReading reading).cycledYear amount) := by
  have hyear := natAbs_year_le reading
  have hinEra := natAbs_yearOfEra_le reading
  rw [cycledYear, yearOfEra_eq (by omega), value_bind, ← LocalTime.cycledYear_eq]
  simp (disch := omega) only [add_eq, sub_eq]
  split <;> exact astronomicalYear_eq _ (by omega)

theorem cycleWeekday_eq : cycleWeekday (ofReading reading) weeks amount =
    value ((ofReading reading).cycleWeekday weeks amount - (ofReading reading).dayNumber) := by
  have hnumber := natAbs_dayNumber_le reading
  have hweekday := weekdayOf_mem (ofReading reading).dayNumber
  have hplace := weeks.placeOf_mem (ofReading reading).weekday
  unfold weekday at hplace
  rw [cycleWeekday, weekdayOf_eq (by omega), value_bind, placeOf_eq weeks (by omega), value_bind,
    turn_eq (by omega) (by decide) (by omega), LocalTime.cycleWeekday, weekday, value.injEq]
  omega

theorem cycleWeekOfMonth_eq : cycleWeekOfMonth (ofReading reading) weeks amount =
    value ((ofReading reading).cycleWeekOfMonth weeks amount - (ofReading reading).dayNumber) := by
  have hnumber := natAbs_dayNumber_le reading
  have hweekday := weekdayOf_mem (ofReading reading).dayNumber
  have hminimum := weeks.minimumDays_mem
  have hplace := weeks.placeOf_mem (ofReading reading).weekday
  have hday := (date_isValid reading).day_mem
  have hlength := monthLength_mem (ofReading reading).date.year (ofReading reading).date.month
  unfold weekday at hplace
  rw [cycleWeekOfMonth, weekdayOf_eq (by omega), value_bind, placeOf_eq weeks (by omega),
    LocalTime.cycleWeekOfMonth, LocalTime.monthLength, weekday]
  generalize weeks.placeOf _ = position at *
  simp (disch := omega) only [ofNat_eq, sub_eq, add_eq, emod_eq, value_bind]
  have hfirst := emod_mem (position - (ofReading reading).date.day + 1) (show (0 : ℤ) < 7 by decide)
  generalize (position - (ofReading reading).date.day + 1) % 7 = first at *
  have hstart : (if 7 - first < weeks.minimumDays then value (8 - first) else value (1 - first)) =
      value ((if 7 - first < weeks.minimumDays then 8 else 1) - first) := by
    split <;> rfl
  have hstartMem : -5 ≤ (if 7 - first < weeks.minimumDays then 8 else 1) - first ∧
      (if 7 - first < weeks.minimumDays then 8 else 1) - first ≤ 7 := by
    split <;> omega
  rw [hstart, value_bind, monthLength_eq, value_bind]
  generalize (if 7 - first < weeks.minimumDays then 8 else 1) - first = start,
    Almanac.monthLength _ _ = length at *
  simp (disch := omega) only [mod_eq, value_bind, sub_eq, add_eq, mul_eq]
  have hlast := emod_mem (length - (ofReading reading).date.day + position)
    (show (0 : ℤ) < 7 by decide)
  generalize (length - (ofReading reading).date.day + position) % 7 = last at *
  -- filled up to whole weeks, the month still has 22 days or more
  have hturned := emod_mem ((ofReading reading).date.day + 7 * amount - start)
    (show 0 < length + 7 - last - start by omega)
  simp (disch := omega) only [value_bind, sub_eq, add_eq, emod_eq, clamp_eq, value.injEq]
  omega

end Amount

theorem dayOfWeekYear_eq (hr : reading.natAbs < 2 ^ 63) (hyear : weekYear.natAbs < 10 ^ 12) :
    dayOfWeekYear (ofReading reading) week weekYear =
      value ((ofReading reading).dayOfWeekYear week weekYear) := by
  have hdateYear := natAbs_year_le reading
  have hv := date_isValid reading
  have hday := hv.dayOfYear_mem
  have hlength := yearLength_mem (ofReading reading).date.year
  have hsame := yearLength_mem weekYear
  have hbefore := yearLength_mem (weekYear - 1)
  rw [dayOfWeekYear, dayOfYear_eq hv (by omega), value_bind, LocalTime.dayOfWeekYear]
  simp (disch := omega) only [ofNat_eq, add_eq, sub_eq, value_bind]
  split <;> split <;> simp only [add_zero, sub_zero]

theorem weekCount_eq (hr : reading.natAbs < 2 ^ 63) :
    weekCount (ofReading reading) weeks ((ofReading reading).dayOfWeekYear week weekYear) weekYear =
      value ((ofReading reading).weekCount weeks week weekYear) := by
  have hnumber := natAbs_dayNumber_le reading
  have hweekday := weekdayOf_mem (ofReading reading).dayNumber
  have hfirst := weeks.firstWeekday_mem
  have hlength := yearLength_mem weekYear
  have hday : ((ofReading reading).dayOfWeekYear week weekYear).natAbs < 1000 := by
    have hday := (date_isValid reading).dayOfYear_mem
    have hdate := yearLength_mem (ofReading reading).date.year
    have hbefore := yearLength_mem (weekYear - 1)
    unfold LocalTime.dayOfWeekYear
    omega
  rw [weekCount, weekdayOf_eq (by omega), value_bind, LocalTime.weekCount, weekday]
  generalize (ofReading reading).dayOfWeekYear week weekYear = day,
    yearLength weekYear = length, Almanac.weekdayOf _ = weekday at *
  simp (disch := omega) only [ofNat_eq, sub_eq, add_eq, value_bind, madeUp_eq]
  have hposition := emod_mem (length - day + weekday - weeks.firstWeekday)
    (show (0 : ℤ) < 7 by decide)
  generalize (length - day + weekday - weeks.firstWeekday) % 7 = position at *
  have hlast : (if weeks.minimumDays ≤ 6 - position then value (length - 7) else value length) =
      value (if weeks.minimumDays ≤ 6 - position then length - 7 else length) :=
    (apply_ite value _ _ _).symm
  rw [hlast, value_bind]
  exact weekAt_eq weeks (by omega) (by omega) (by omega)

theorem cycleWeek_eq (hr : reading.natAbs < 2 ^ 63) (hweek : 1 ≤ week ∧ week ≤ 53)
    (hyear : weekYear.natAbs < 10 ^ 12) (hamount : amount.natAbs ≤ 10 ^ 12) :
    cycleWeek (ofReading reading) weeks week weekYear amount =
      value ((ofReading reading).cycleWeek weeks week weekYear amount) := by
  have hcount := (ofReading reading).weekCount_mem weeks week weekYear
  have hmoved := emod_mem (week + amount - 1)
    (show 0 < (ofReading reading).weekCount weeks week weekYear by omega)
  rw [cycleWeek, dayOfWeekYear_eq hr hyear, value_bind, add_eq (by omega), value_bind,
    weekCount_eq hr, LocalTime.cycleWeek]
  simp (disch := omega) only [ofNat_eq, value_bind, add_eq, sub_eq, emod_eq]
  split <;> rfl

/-! ## Exact moves -/

section Moves

variable {cal : Calendar} (hday : cal.zone.source.WithinDay)
include hday

theorem moveToDay_eq {dayNumber : ℤ} (h : dayNumber.natAbs < 8 * 10 ^ 12) :
    moveToDay cal (ofReading reading) dayNumber =
      value (cal.moveToDay (ofReading reading) dayNumber) := by
  have hsecond := secondOfDay_mem reading
  have hzero : (ofReading reading).nanosecond = 0 := rfl
  unfold secondsPerDay at hsecond
  exact instantOf_eq hday h (by omega) (by omega) {}

theorem moveByDays_eq {days dayNumber : ℤ}
    (hdays : (ofReading reading).dayNumber + days = dayNumber)
    (h : dayNumber.natAbs < 8 * 10 ^ 12) : moveByDays cal (ofReading reading) days =
      value (some (cal.moveToDay (ofReading reading) dayNumber)) := by
  subst hdays
  rw [moveByDays, add_eq (by omega), value_bind, moveToDay_eq hday h, map_value]

theorem moveToMonth?_eq {year month : ℤ} (hyear : year.natAbs < 10 ^ 15)
    (hmonth : month.natAbs < 10 ^ 15) : moveToMonth? cal (ofReading reading) year month =
      value (cal.moveToMonth? (ofReading reading) year month) := by
  have hv := date_isValid reading
  have hdate := hv.day_mem
  have hmem := foldMonth_snd_mem year month
  rw [moveToMonth?, foldMonth_eq hyear hmonth, value_bind, Calendar.moveToMonth?]
  generalize Almanac.foldMonth year month = folded at *
  dsimp only
  split
  · next hsized =>
    unfold IsYearSized largestYear at hsized
    have hfolded := monthLength_mem folded.1 folded.2
    rw [monthLength_eq, value_bind, dayNumber?_eq (by omega) (by omega) (by omega)]
    refine andThen_eq fun number hnumber => moveToDay_eq hday ?_
    have hsize := natAbs_lt_of_dayNumber? (by omega) hnumber
    omega
  · rfl

theorem moveToWeek?_eq (hyear : weekYear.natAbs < 10 ^ 15) (hweek : 1 ≤ week ∧ week ≤ 54) :
    moveToWeek? cal (ofReading reading) weekYear week (ofReading reading).weekday =
      value ((Almanac.dayNumber? weekYear 1 1).map fun start =>
        cal.moveToDay (ofReading reading)
          (cal.weeks.dayAt start week (ofReading reading).weekday)) := by
  have hweekday : 1 ≤ (ofReading reading).weekday ∧ (ofReading reading).weekday ≤ 7 :=
    weekdayOf_mem _
  rw [moveToWeek?, dayNumber?_eq hyear (by decide) (by decide)]
  refine andThen_eq fun start hstart => ?_
  have hsize := natAbs_lt_of_dayNumber? (by decide) hstart
  have hnear := cal.weeks.abs_dayAt_sub_le start week (ofReading reading).weekday
  rw [abs_of_nonneg (by omega : 0 ≤ week - 1), abs_le] at hnear
  rw [dayAt_eq cal.weeks (by omega) (by omega) (by rintro _ ⟨⟩; omega), value_bind]
  exact moveToDay_eq hday (by omega)

variable {n : ℤ}
  (hr : (cal.zone.source.toLocal (Instant.ofSeconds n).secondsAndNanos.1).natAbs < 10 ^ 16)
  (hamount : amount.natAbs ≤ 10 ^ 12)
include hr hamount

theorem carry?_eq (unit : TimeUnit) : carry? cal unit amount (.ofSeconds n) =
    value (cal.carry? unit amount (.ofSeconds n)) := by
  unfold carry? Calendar.carry?
  rw [localTime_wholeSecond (by omega), value_bind, cal.localTime_wholeSecond]
  generalize cal.zone.source.toLocal _ = reading at *
  have hnumber := natAbs_dayNumber_le reading
  have hyear := natAbs_year_le reading
  have hmonth := (date_isValid reading).month_mem
  cases unit with
  | era | second | nanosecond => rfl
  | hour | minute => simp (disch := omega) only [ofNat_eq, mul_eq, value_bind]
  | day | weekday => exact moveByDays_eq hday rfl (by omega)
  | weekOfYear | weekOfMonth | weekdayOrdinal =>
    dsimp only
    rw [ofNat_eq, mul_eq (by omega), value_bind, moveByDays_eq hday rfl (by omega)]
  | year | quarter | month =>
    dsimp only
    simp (disch := omega) only [ofNat_eq, mul_eq, add_eq, value_bind]
    exact moveToMonth?_eq hday (by omega) (by omega)
  | yearForWeekOfYear =>
    obtain ⟨hweek, hweekYear⟩ := weekOfYear_mem cal.weeks reading
    dsimp only
    rw [weekdayOf_eq (by omega), value_bind, localWeek_eq cal.weeks (by omega), value_bind,
      add_eq (by omega), value_bind]
    exact moveToWeek?_eq hday (by omega) (by omega)

theorem cycle?_eq (unit : TimeUnit) : cycle? cal unit amount (.ofSeconds n) =
    value (cal.cycle? unit amount (.ofSeconds n)) := by
  have hcarry := carry?_eq hday hr hamount .yearForWeekOfYear
  unfold cycle? Calendar.cycle?
  rw [localTime_wholeSecond (by omega), value_bind, cal.localTime_wholeSecond]
  generalize cal.zone.source.toLocal _ = reading at *
  have hnumber := natAbs_dayNumber_le reading
  have hyear := natAbs_year_le reading
  have hmonth := (date_isValid reading).month_mem
  have hdate := (date_isValid reading).day_mem
  have hsecond := secondOfDay_mem reading
  unfold secondsPerDay at hsecond
  cases unit with
  | era => rfl
  | yearForWeekOfYear => exact hcarry
  | year =>
    dsimp only
    rw [cycledYear_eq hamount (by omega), value_bind, LocalTime.cycledYear_eq]
    refine moveToMonth?_eq hday ?_ (by omega)
    unfold LocalTime.cycledYear
    omega
  | quarter | month =>
    dsimp only
    simp (disch := omega) only [ofNat_eq, sub_eq, div_eq, mod_eq, add_eq, emod_eq, mul_eq,
      value_bind]
    exact moveToMonth?_eq hday (by omega) (by omega)
  | day =>
    have hnear := abs_le.mp (cycleDay_near hdate amount)
    dsimp only
    rw [cycleDay_eq hamount, value_bind]
    exact moveByDays_eq hday (by omega) (by omega)
  | weekday =>
    have hnear := abs_le.mp ((ofReading reading).cycleWeekday_near cal.weeks amount)
    dsimp only
    rw [cycleWeekday_eq hamount (by omega), value_bind]
    exact moveByDays_eq hday (by omega) (by omega)
  | weekdayOrdinal =>
    have hnear := abs_le.mp (cycleOrdinal_near hdate amount)
    dsimp only
    rw [cycleOrdinal_eq hamount, value_bind]
    exact moveByDays_eq hday (by omega) (by omega)
  | weekOfMonth =>
    have hnear := abs_le.mp (cycleWeekOfMonth_near hdate cal.weeks amount)
    dsimp only
    rw [cycleWeekOfMonth_eq hamount (by omega), value_bind]
    exact moveByDays_eq hday (by omega) (by omega)
  | weekOfYear =>
    obtain ⟨hweek, hweekYear⟩ := weekOfYear_mem cal.weeks reading
    dsimp only
    rw [weekdayOf_eq (by omega), value_bind, localWeek_eq cal.weeks (by omega), value_bind,
      cycleWeek_eq (by omega) hweek (by omega) hamount, value_bind]
    exact moveToWeek?_eq hday (by omega) ((ofReading reading).cycleWeek_mem cal.weeks _ _ amount)
  | hour | minute | second =>
    dsimp only
    simp (disch := omega) only [ofNat_eq, div_eq, mod_eq, turn_eq, mul_eq, value_bind]
    rfl
  | nanosecond =>
    have hzero : (ofReading reading).nanosecond = 0 := rfl
    have hsecond : (0 : ℤ) < nanosPerSecond ∧ nanosPerSecond < 10 ^ 10 := by decide
    have hlow := Int.lt_tmod_of_pos (0 + amount) hsecond.1
    have hhigh := Int.tmod_lt_of_pos (0 + amount) hsecond.1
    have hrest : value (0 + amount) % value nanosPerSecond =
        value ((0 + amount).tmod nanosPerSecond) := divided_eq _ hsecond.1
    dsimp only
    rw [hzero, add_eq (by omega), hrest, value_bind, sub_eq (by omega), value_bind]

end Moves

end Exact

/-- **No step from a whole second to one an amount of a unit away overflows.** -/
theorem add?_eq {cal : Calendar} (hday : cal.zone.source.WithinDay) {n : ℤ}
    (hn : n.natAbs ≤ 2 ^ 53) (unit : TimeUnit) (amount : ℤ) (wrap : Bool) :
    add? cal unit amount (.ofSeconds n) wrap =
      value (cal.add? unit amount (.ofSeconds n) wrap) := by
  have hr : (cal.zone.source.toLocal (Instant.ofSeconds n).secondsAndNanos.1).natAbs < 10 ^ 16 := by
    have hoffset := hday (.ofSeconds n)
    unfold secondsPerDay at hoffset
    rw [Instant.secondsAndNanos_ofSeconds hn]
    dsimp only
    unfold OffsetSource.toLocal
    omega
  rw [add?, Calendar.add?]
  split
  · rfl
  split
  · next hsized =>
    unfold IsFieldSized largestField at hsized
    cases wrap with
    | false => exact carry?_eq hday hr (by omega) unit
    | true => exact cycle?_eq hday hr (by omega) unit
  · rfl

/-! ## Inner instants -/

section Inner

variable {cal : Calendar} {offset : FixedOffset} (hzone : cal.zone = .fixed offset) {t : Instant}
  (ht : t.IsInner)
include hzone ht

theorem moveByDays_eq_of_isInner {days : Checked ℤ} {day : ℤ}
    (hdays : days = value (day - (cal.localTime t).dayNumber))
    (hnear : |day - (cal.localTime t).dayNumber| ≤ 50) :
    (do moveByDays cal (cal.localTime t) (← days)) =
      value (some (cal.moveToDay (cal.localTime t) day)) := by
  have ho := offset.within_day
  have hinner : t.secondsAndNanos.1.natAbs ≤ 2 ^ 63 - 10 ^ 8 := ht
  have hsecond := secondOfDay_mem (t.secondsAndNanos.1 + offset.seconds)
  have hreading := reading_eq (t.secondsAndNanos.1 + offset.seconds)
  rw [hdays, value_bind]
  rw [Calendar.localTime_fixed hzone] at hnear ⊢
  generalize ofReading (t.secondsAndNanos.1 + offset.seconds) = l at *
  have hnear' := abs_le.mp hnear
  unfold secondsPerDay at ho hsecond hreading
  dsimp only at hnear' ⊢
  have hmove : moveToDay cal { l with nanosecond := t.secondsAndNanos.2 } day =
      value (cal.moveToDay { l with nanosecond := t.secondsAndNanos.2 } day) := by
    refine instantOf_fixed_eq hzone hsecond ⟨t.nanos_nonneg, t.nanos_lt⟩ ?_ {}
    unfold Binary64.int64Min Binary64.int64Max secondsPerDay
    omega
  rw [moveByDays, add_eq (by dsimp only; omega), value_bind, add_sub_cancel, hmove, map_value]

/-- **In a fixed zone, no step of a cyclic move by days overflows for an inner instant.** -/
theorem add?_eq_of_isInner {unit : TimeUnit}
    (hunit : unit ∈ [.day, .weekday, .weekdayOrdinal, .weekOfMonth]) (amount : ℤ) :
    add? cal unit amount t true = value (cal.add? unit amount t true) := by
  have hr := ht.natAbs_reading_lt offset
  have hlocal := Calendar.localTime_fixed hzone t
  have hreading := Calendar.toLocal_fixed hzone t.secondsAndNanos.1
  have hdate : 1 ≤ (cal.localTime t).date.day ∧
      (cal.localTime t).date.day ≤ (cal.localTime t).monthLength := by
    rw [hlocal]
    exact (date_isValid _).day_mem
  rw [add?, Calendar.add?]
  split
  · rfl
  split
  · next hsized =>
    unfold IsFieldSized largestField at hsized
    have hamount : amount.natAbs ≤ 10 ^ 12 := by omega
    rw [if_pos rfl, if_pos rfl, cycle?, localTime_eq ht.seconds_mem.2 (by rwa [hreading]),
      value_bind]
    fin_cases hunit
    · refine moveByDays_eq_of_isInner hzone ht ?_ (cycleDay_near hdate amount)
      rw [hlocal]
      exact cycleDay_eq hamount
    · refine moveByDays_eq_of_isInner hzone ht ?_ (cycleWeekday_near _ cal.weeks amount)
      rw [hlocal]
      exact cycleWeekday_eq hamount hr
    · refine moveByDays_eq_of_isInner hzone ht ?_ (cycleOrdinal_near hdate amount)
      rw [hlocal]
      exact cycleOrdinal_eq hamount
    · refine moveByDays_eq_of_isInner hzone ht ?_ (cycleWeekOfMonth_near hdate cal.weeks amount)
      rw [hlocal]
      exact cycleWeekOfMonth_eq hamount hr
  · rfl

end Inner

end Checked

end Almanac
