import Mathlib
import Almanac.Proofs.Calendar.Position
import Almanac.Proofs.Checked.Fields
import Almanac.Proofs.Checked.LocalTime

/-!
# Starts in 64 bits

The start of a unit, step by step: the first day of the unit and the second of its midnight, or the
second of the instant without the smaller parts of the time of day.

* `Checked.firstDay?`, `Checked.truncate`, `Checked.startOf?`: the steps.
* `Checked.firstDay?_eq`: the first day is found around every reading of 64 bits.
* **`Checked.startOf?_eq`**: in every zone, no step overflows for exact seconds.
* **`Checked.startOf?_eq_of_isInner`**: in a fixed zone, none overflows for inner instants.
-/

namespace Almanac

namespace Instant.IsInner

variable {t : Instant} (ht : t.IsInner)
include ht

theorem seconds_mem : Binary64.int64Min + 3600 ≤ t.secondsAndNanos.1 ∧
    t.secondsAndNanos.1 ≤ Binary64.int64Max := by
  unfold IsInner at ht
  unfold Binary64.int64Min Binary64.int64Max
  omega

theorem natAbs_reading_lt (offset : FixedOffset) :
    (t.secondsAndNanos.1 + offset.seconds).natAbs < 2 ^ 63 := by
  have ho := offset.within_day
  unfold IsInner at ht
  unfold secondsPerDay at ho
  omega

end Instant.IsInner

namespace Checked

open LocalTime

/-- The number of the first day of a unit of a day or more. -/
def firstDay? (weeks : WeekNumbering) (l : LocalTime) : TimeUnit → Checked (Option ℤ)
  | .era => value (if l.date.year < 1 then none else some eraStart)
  | .year => some <$> dayNumber ⟨l.date.year, 1, 1⟩
  | .yearForWeekOfYear => do
    let week ← localWeek weeks l
    some <$> dayAt weeks (← dayNumber ⟨week.2, 1, 1⟩) 1 none
  | .quarter => do
    let month : ℤ ← (l.date.month - 1) / 3 * 3 + 1
    some <$> dayNumber ⟨l.date.year, month, 1⟩
  | .month => some <$> (l.dayNumber - l.date.day + 1 : Checked ℤ)
  | .weekOfMonth | .weekOfYear => do
    let position ← placeOf weeks (← weekdayOf l.dayNumber)
    some <$> (l.dayNumber - position : Checked ℤ)
  | .day | .weekday | .weekdayOrdinal => value (some l.dayNumber)
  | .hour | .minute | .second | .nanosecond => value none

/-- The instant of `second` without the part of the time of day that is below `length` seconds. -/
def truncate (l : LocalTime) (second length : ℤ) : Checked Instant := do
  let rest : ℤ ← l.secondOfDay % length
  let start : ℤ ← second - rest
  value (.ofSeconds start)

/-- The first instant of the unit that holds `t`. -/
def startOf? (cal : Calendar) (unit : TimeUnit) (t : Instant) : Checked (Option Instant) := do
  let l ← localTime cal t
  let split ← secondsAndNanos t
  match unit with
  | .hour => some <$> truncate l split.1 3600
  | .minute => some <$> truncate l split.1 60
  | .second => some <$> truncate l split.1 1
  | .nanosecond => value (some t)
  | _ => andThen (firstDay? cal.weeks l unit) (instantOf cal · 0 0 {})

/-! ## First days -/

theorem firstOfMonth_eq {year month : ℤ} (hyear : year.natAbs < 10 ^ 12)
    (hmonth : 1 ≤ month ∧ month ≤ 12) :
    dayNumber ⟨year, month, 1⟩ = value (Date.dayNumber ⟨year, month, 1⟩) ∧
      (Date.dayNumber ⟨year, month, 1⟩).natAbs < 5 * 10 ^ 14 := by
  have hlength := monthLength_mem year month
  have hfirst : (⟨year, month, 1⟩ : Date).IsValid := ⟨hmonth, by dsimp only; omega⟩
  have hsize := hfirst.natAbs_dayNumber_le
  dsimp only at hsize
  exact ⟨dayNumber_eq hmonth (by dsimp only; omega) (by dsimp only; decide), by omega⟩

theorem firstOfWeekYear_eq (weeks : WeekNumbering) {year : ℤ} (hyear : year.natAbs < 10 ^ 12) :
    dayNumber ⟨year, 1, 1⟩ = value (Date.dayNumber ⟨year, 1, 1⟩) ∧
      dayAt weeks (Date.dayNumber ⟨year, 1, 1⟩) 1 none =
        value (weeks.dayAt (Date.dayNumber ⟨year, 1, 1⟩) 1 none) ∧
      (weeks.dayAt (Date.dayNumber ⟨year, 1, 1⟩) 1 none).natAbs < 10 ^ 15 := by
  obtain ⟨hfirst, hsize⟩ := firstOfMonth_eq hyear (show (1 : ℤ) ≤ 1 ∧ (1 : ℤ) ≤ 12 by decide)
  have hnear : |weeks.dayAt (Date.dayNumber ⟨year, 1, 1⟩) 1 none - Date.dayNumber ⟨year, 1, 1⟩| ≤
      13 := weeks.abs_dayAt_sub_le _ 1 none
  have hnear' := abs_le.mp hnear
  exact ⟨hfirst, dayAt_eq weeks (by omega) (by decide) (by rintro _ ⟨⟩), by omega⟩

section Exact

variable {reading : ℤ} (hr : reading.natAbs < 2 ^ 63)
include hr

theorem firstDay?_eq (weeks : WeekNumbering) (unit : TimeUnit) :
    firstDay? weeks (ofReading reading) unit =
      value ((ofReading reading).firstDay? weeks unit) := by
  have hnumber := natAbs_dayNumber_le reading
  have hyear := natAbs_year_le reading
  have hv := date_isValid reading
  have hmonth := hv.month_mem
  have hdate := hv.day_mem
  cases unit with
  | year =>
    rw [firstDay?, (firstOfMonth_eq (by omega) (by decide)).1]
    rfl
  | yearForWeekOfYear =>
    obtain ⟨-, hweek⟩ := weekOfYear_mem weeks reading
    obtain ⟨hfirst, hstart, -⟩ := firstOfWeekYear_eq weeks
      (show ((ofReading reading).weekOfYear weeks).2.natAbs < 10 ^ 12 by omega)
    rw [firstDay?, localWeek_eq weeks hr, value_bind, hfirst, value_bind, hstart]
    rfl
  | quarter =>
    rw [firstDay?, LocalTime.firstDay?, quarterStart]
    simp (disch := omega) only [ofNat_eq, sub_eq, div_eq, mul_eq, add_eq, value_bind]
    rw [(firstOfMonth_eq (by omega) (by omega)).1]
    rfl
  | month =>
    have hlength := monthLength_mem (ofReading reading).date.year (ofReading reading).date.month
    rw [firstDay?, LocalTime.firstDay?]
    simp (disch := omega) only [ofNat_eq, sub_eq, add_eq, map_value]
  | weekOfMonth | weekOfYear =>
    have hplace := weeks.placeOf_mem (Almanac.weekdayOf (ofReading reading).dayNumber)
    have hweekday := weekdayOf_mem (ofReading reading).dayNumber
    rw [firstDay?, weekdayOf_eq (by omega), value_bind, placeOf_eq weeks (by omega), value_bind,
      sub_eq (by omega)]
    rfl
  | era | day | weekday | weekdayOrdinal | hour | minute | second | nanosecond => rfl

end Exact

/-! ## Midnights -/

/-- With a fixed offset there is no search for a change. -/
theorem toUtc_fixed_eq {cal : Calendar} {offset : FixedOffset} (hzone : cal.zone = .fixed offset)
    {reading : ℤ} (h : Binary64.int64Min ≤ reading - secondsPerDay ∧
      reading + secondsPerDay ≤ Binary64.int64Max) (resolution : Resolution) :
    toUtc cal.zone reading resolution = value (cal.zone.source.toUtc reading resolution) := by
  have ho := offset.within_day
  have hsame (t : Instant) : cal.zone.source.totalAt t = offset.seconds := by
    rw [hzone, Zone.source, OffsetSource.totalAt_constant]
  rw [toUtc, Calendar.toUtc_fixed hzone]
  unfold Binary64.int64Min Binary64.int64Max secondsPerDay at *
  simp (disch := omega) only [hsame, sub_eq, add_eq, value_bind, if_true]

theorem instantOf_fixed_eq {cal : Calendar} {offset : FixedOffset}
    (hzone : cal.zone = .fixed offset) {dayNumber secondOfDay nanosecond : ℤ}
    (hsecond : 0 ≤ secondOfDay ∧ secondOfDay < secondsPerDay)
    (hnanos : 0 ≤ nanosecond ∧ nanosecond < nanosPerSecond)
    (h : Binary64.int64Min ≤ dayNumber * secondsPerDay + secondOfDay - secondsPerDay ∧
      dayNumber * secondsPerDay + secondOfDay + secondsPerDay ≤ Binary64.int64Max)
    (resolution : Resolution) : instantOf cal dayNumber secondOfDay nanosecond resolution =
      value (cal.instantOf dayNumber secondOfDay nanosecond resolution) := by
  have hutc := toUtc_fixed_eq hzone h resolution
  have hwhole : nanosecond / nanosPerSecond = 0 := Int.ediv_eq_zero_of_lt hnanos.1 hnanos.2
  have hpositive : 0 < nanosPerSecond := by decide
  unfold Binary64.int64Min Binary64.int64Max at h
  rw [instantOf, ediv_eq hpositive, emod_eq hpositive, hwhole, mul_eq (by omega), add_eq (by omega),
    add_eq (by omega), add_zero, value_bind, hutc, value_bind, value_bind, Calendar.instantOf, hwhole,
    add_zero]

/-! ## Starts -/

section Starts

variable {cal : Calendar} {t : Instant} {unit : TimeUnit}

theorem truncate_eq {l : LocalTime} {second length : ℤ} (hday : 0 ≤ l.secondOfDay)
    (hlength : 0 < length ∧ length ≤ 3600) (hmin : Binary64.int64Min + 3600 ≤ second)
    (hmax : second ≤ Binary64.int64Max) :
    truncate l second length = value (.ofSeconds (second - l.secondOfDay % length)) := by
  have hrest := emod_mem l.secondOfDay hlength.1
  unfold Binary64.int64Min Binary64.int64Max at *
  rw [truncate, mod_eq ⟨hday, hlength.1⟩, value_bind, sub_eq (by omega), value_bind]

/-- What is left to a start is the midnight of the first day. -/
theorem startOf?_eq_of_midnight (hmin : Binary64.int64Min + 3600 ≤ t.secondsAndNanos.1)
    (hmax : t.secondsAndNanos.1 ≤ Binary64.int64Max)
    (hr : (cal.zone.source.toLocal t.secondsAndNanos.1).natAbs < 2 ^ 63)
    (hmidnight : unit.isClockUnit = false → ∀ day,
      (ofReading (cal.zone.source.toLocal t.secondsAndNanos.1)).firstDay? cal.weeks unit = some day →
        instantOf cal day 0 0 {} = value (cal.instantOf day 0 0 {})) :
    startOf? cal unit t = value (cal.startOf? unit t) := by
  have hfirst : firstDay? cal.weeks (cal.localTime t) unit =
      value ((cal.localTime t).firstDay? cal.weeks unit) := by
    rw [cal.localTime_eq]
    exact firstDay?_eq hr cal.weeks unit
  have hsecond : 0 ≤ (cal.localTime t).secondOfDay := by
    rw [cal.localTime_eq]
    exact (secondOfDay_mem _).1
  rw [startOf?, localTime_eq hmax hr, value_bind, secondsAndNanos_eq hmax, value_bind]
  cases unit with
  | hour | minute | second =>
    dsimp only
    rw [truncate_eq hsecond (by decide) hmin hmax]
    rfl
  | nanosecond => rfl
  | _ =>
    dsimp only
    rw [hfirst, cal.localTime_eq]
    exact andThen_eq (hmidnight rfl)

/-- **In every zone, no step to a start overflows**, for exact seconds. -/
theorem startOf?_eq (hday : cal.zone.source.WithinDay) (ht : t.secondsAndNanos.1.natAbs ≤ 2 ^ 53)
    (unit : TimeUnit) : startOf? cal unit t = value (cal.startOf? unit t) := by
  have hoffset := hday (.ofSeconds t.secondsAndNanos.1)
  have hreading : cal.zone.source.toLocal t.secondsAndNanos.1 =
      t.secondsAndNanos.1 + cal.zone.source.totalAt (.ofSeconds t.secondsAndNanos.1) := rfl
  unfold secondsPerDay at hoffset
  refine startOf?_eq_of_midnight ?_ ?_ ?_ ?_
  · unfold Binary64.int64Min
    omega
  · unfold Binary64.int64Max
    omega
  · omega
  · intro hclock day hfirst
    have hmem := firstDay?_mem hclock hfirst
    unfold secondsPerDay eraStart at hmem
    exact instantOf_eq hday (by omega) (by decide) (by decide) {}

/-- **In a fixed zone, no step to a start overflows for an inner instant.** -/
theorem startOf?_eq_of_isInner {offset : FixedOffset} (hzone : cal.zone = .fixed offset)
    (ht : t.IsInner) (unit : TimeUnit) : startOf? cal unit t = value (cal.startOf? unit t) := by
  have hreading := Calendar.toLocal_fixed hzone t.secondsAndNanos.1
  refine startOf?_eq_of_midnight ht.seconds_mem.1 ht.seconds_mem.2 ?_ ?_
  · rw [hreading]
    exact ht.natAbs_reading_lt offset
  · intro hclock day hfirst
    rw [hreading] at hfirst
    have hb : beginning? cal.weeks (t.secondsAndNanos.1 + offset.seconds) unit =
        some (day * secondsPerDay) := by
      rw [beginning?_of_not_clock hclock, hfirst]
      rfl
    have hfits := beginning?_mem_int64 ht offset hb
    exact instantOf_fixed_eq hzone (by decide) (by decide) (by rwa [add_zero]) {}

/-- On the last of the 64-bit days, the second a day after midnight does not fit. -/
example : startOf? .standard .day (.ofSeconds 9223372036854774784) = overflow := by decide +kernel

end Starts

end Checked

end Almanac
