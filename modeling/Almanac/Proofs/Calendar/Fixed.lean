import Mathlib
import Almanac.Proofs.Calendar.LocalTime
import Almanac.Proofs.Calendar.Fields
import Almanac.Proofs.Date.Month
import Almanac.Calendar.Carry

/-!
# Calendars of fixed zones

The clock of a fixed zone shows every reading once, so instants and readings stand for each other
and a calendar computes with readings alone.

* `FixedOffset.instantAt`: the instant of a reading; `FixedOffset.IsExact`: whether it is exact.
* `Calendar.localTime_instantAt` and `Calendar.instantOf_fixed`: between instants and readings.
* `Calendar.moveToMonth?_eq`: a move to another month, by the number of that month.
* `Calendar.carry?_yearForWeekOfYear`: a step of week years, by the start of the week year.
* `Calendar.moveToDay_fixed`: a move to another day keeps the time of day.
* `LocalTime.onDay`: the same time on another day, which such a move leads to.
-/

namespace Almanac

namespace FixedOffset

variable (offset : FixedOffset)

/-- The instant at which a clock of this offset shows a reading. -/
def instantAt (reading : ℤ) : Instant := .ofSeconds (reading - offset.seconds)

/-- Whether the second of a reading is small enough to be held exactly. -/
def IsExact (reading : ℤ) : Prop := (reading - offset.seconds).natAbs ≤ 2 ^ 53

theorem ofSeconds_eq_instantAt (n : ℤ) : .ofSeconds n = offset.instantAt (n + offset.seconds) := by
  rw [instantAt, Int.add_sub_cancel]

theorem isExact_of_lt {reading : ℤ} (h : reading.natAbs < 9000000000000000) :
    offset.IsExact reading := by
  have ho := offset.within_day
  unfold secondsPerDay at ho
  unfold IsExact
  omega

theorem instantAt_add {reading amount : ℤ} (h : offset.IsExact reading)
    (hamount : amount.natAbs ≤ 2 ^ 53) (h' : offset.IsExact (reading + amount)) :
    offset.instantAt reading + Binary64.ofInt amount = offset.instantAt (reading + amount) := by
  have hsum : reading - offset.seconds + amount = reading + amount - offset.seconds := by ring
  unfold IsExact at h'
  rw [← hsum] at h'
  rw [instantAt, Instant.ofSeconds_add_ofInt h hamount h', hsum, instantAt]

end FixedOffset

namespace Calendar

theorem moveToMonth?_eq (cal : Calendar) (l : LocalTime) {year month index : ℤ}
    (hindex : 12 * year + month - 1 = index) :
    cal.moveToMonth? l year month =
      if IsYearSized (index / 12) then
        some (cal.moveToDay l (monthStart index +
          (min l.date.day (monthLength (index / 12) (index % 12 + 1)) - 1)))
      else none := by
  have hfold : foldMonth year month = (index / 12, index % 12 + 1) := by
    simp only [foldMonth, Prod.mk.injEq]
    omega
  simp only [moveToMonth?, hfold]
  split
  · rename_i hyear
    rw [dayNumber?_of_mem _ (by omega) hyear, dayNumber_add_day]
    rfl
  · rfl

theorem carry?_yearForWeekOfYear {cal : Calendar} {t : Instant} {week weekYear amount : ℤ}
    (hweek : (cal.localTime t).weekOfYear cal.weeks = (week, weekYear)) :
    cal.carry? .yearForWeekOfYear amount t =
      if IsYearSized (weekYear + amount) then
        some (cal.moveToDay (cal.localTime t) (cal.weeks.weekYearStart (weekYear + amount) +
          7 * (week - 1) + cal.weeks.placeOf (cal.localTime t).weekday))
      else none := by
  simp only [carry?, hweek, dayNumber?_eq _ 1 (show (1 : ℤ) ≤ 1 ∧ (1 : ℤ) ≤ 12 by decide)]
  split
  · rw [Option.map_some, WeekNumbering.dayAt_weekYear]
  · rfl

variable {cal : Calendar} {offset : FixedOffset} (hzone : cal.zone = .fixed offset)
include hzone

theorem toLocal_fixed (n : ℤ) : cal.zone.source.toLocal n = n + offset.seconds := by
  rw [hzone, Zone.source, OffsetSource.toLocal, OffsetSource.totalAt_constant]

theorem toUtc_fixed (reading : ℤ) (resolution : Resolution) :
    cal.zone.source.toUtc reading resolution = reading - offset.seconds := by
  rw [hzone, Zone.source, OffsetSource.toUtc,
    OffsetSource.resolve_of_constant OffsetSource.constantAround_constant]

theorem localTime_instantAt {reading : ℤ} (h : offset.IsExact reading) :
    cal.localTime (offset.instantAt reading) = .ofReading reading := by
  rw [FixedOffset.instantAt, cal.localTime_ofSeconds h, toLocal_fixed hzone, Int.sub_add_cancel]

theorem instantOf_fixed {dayNumber secondOfDay : ℤ}
    (h : offset.IsExact (dayNumber * secondsPerDay + secondOfDay)) (resolution : Resolution) :
    cal.instantOf dayNumber secondOfDay 0 resolution =
      offset.instantAt (dayNumber * secondsPerDay + secondOfDay) := by
  have hutc := toUtc_fixed hzone (dayNumber * secondsPerDay + secondOfDay) resolution
  rw [instantOf_reading, hutc]
  · rfl
  · rw [hutc]
    exact h

theorem reading_fixed {n : ℤ} (hyear : IsYearSized (cal.localTime (.ofSeconds n)).date.year) :
    (n + offset.seconds).natAbs < 4000000000000000 := by
  have hday : cal.zone.source.WithinDay := hzone ▸ Zone.withinDay_fixed offset
  have hr := (cal.exact_of_year hday hyear).2
  rwa [toLocal_fixed hzone] at hr

theorem moveToDay_fixed {reading dayNumber : ℤ}
    (h : offset.IsExact (dayNumber * secondsPerDay + reading % secondsPerDay)) :
    cal.moveToDay (.ofReading reading) dayNumber =
      offset.instantAt (dayNumber * secondsPerDay + reading % secondsPerDay) :=
  instantOf_fixed hzone h _

end Calendar

namespace LocalTime

theorem ofReading_add {dayNumber secondOfDay : ℤ}
    (h : 0 ≤ secondOfDay ∧ secondOfDay < secondsPerDay) :
    ofReading (dayNumber * secondsPerDay + secondOfDay) =
      ⟨dayNumber, .ofDayNumber dayNumber, secondOfDay, 0⟩ := by
  have hd : (dayNumber * secondsPerDay + secondOfDay) / secondsPerDay = dayNumber := by
    unfold secondsPerDay at *
    omega
  have hs : (dayNumber * secondsPerDay + secondOfDay) % secondsPerDay = secondOfDay := by
    unfold secondsPerDay at *
    omega
  rw [ofReading, hd, hs]

theorem ofReading_mul (dayNumber : ℤ) :
    ofReading (dayNumber * secondsPerDay) = ⟨dayNumber, .ofDayNumber dayNumber, 0, 0⟩ := by
  rw [← ofReading_add ⟨le_rfl, by decide⟩, add_zero]

theorem ofReading_addSeconds {reading k : ℤ} (h : 0 ≤ (ofReading reading).secondOfDay + k ∧
    (ofReading reading).secondOfDay + k < secondsPerDay) : ofReading (reading + k) =
      { ofReading reading with secondOfDay := (ofReading reading).secondOfDay + k } := by
  have hsum : reading + k = (ofReading reading).dayNumber * secondsPerDay +
      ((ofReading reading).secondOfDay + k) := by
    rw [← add_assoc, reading_eq]
  rw [hsum, ofReading_add h]
  rfl

/-! ## The same time on another day -/

variable (l : LocalTime)

/-- What the wall clock reads at a local time. -/
def reading : ℤ := l.dayNumber * secondsPerDay + l.secondOfDay

/-- The same time of day on another day. -/
def onDay (day : ℤ) : LocalTime := { l with dayNumber := day, date := .ofDayNumber day }

theorem ofReading_onDay (reading day : ℤ) :
    ofReading ((ofReading reading).onDay day).reading = (ofReading reading).onDay day :=
  ofReading_add (secondOfDay_mem reading)

end LocalTime

theorem Calendar.localTime_moveToDay_fixed {cal : Calendar} {offset : FixedOffset}
    (hzone : cal.zone = .fixed offset) {reading day : ℤ}
    (h : offset.IsExact ((LocalTime.ofReading reading).onDay day).reading) :
    cal.localTime (cal.moveToDay (.ofReading reading) day) =
      (LocalTime.ofReading reading).onDay day := by
  have hmove : cal.moveToDay (.ofReading reading) day = offset.instantAt _ := moveToDay_fixed hzone h
  rw [hmove]
  exact (localTime_instantAt hzone h).trans (LocalTime.ofReading_onDay reading day)

end Almanac
