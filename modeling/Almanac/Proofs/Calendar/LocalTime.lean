import Mathlib
import Almanac.Proofs.Date.DayNumber
import Almanac.Proofs.Instant.Large
import Almanac.Proofs.Zone.Change
import Almanac.Calendar.LocalTime

/-!
# Local time of whole seconds

On whole seconds, local time is a matter of integers: the reading of the zone's clock, split into
days and seconds. The year bounds the reading, so that all seconds around it are exact.

* `LocalTime.ofReading`: the local time of a reading.
* `Date.dayNumber_mem`: the days of years of allowed size.
* `Calendar.exact_of_year`: instants in such years are exact whole seconds.
* `Calendar.localTime_ofSeconds`: their local time is that of their reading.
* `Calendar.instantOf_reading`: the instant of a local time is that of its reading.
-/

namespace Almanac

/-- The local time that a clock with this reading shows. -/
def LocalTime.ofReading (reading : ℤ) : LocalTime :=
  ⟨reading / secondsPerDay, .ofDayNumber (reading / secondsPerDay), reading % secondsPerDay, 0⟩

namespace LocalTime

variable (reading : ℤ)

theorem reading_eq : (ofReading reading).dayNumber * secondsPerDay +
    (ofReading reading).secondOfDay = reading := Int.ediv_mul_add_emod reading secondsPerDay

theorem secondOfDay_mem : 0 ≤ (ofReading reading).secondOfDay ∧
    (ofReading reading).secondOfDay < secondsPerDay :=
  ⟨Int.emod_nonneg _ (by decide), Int.emod_lt_of_pos _ (by decide)⟩

theorem date_isValid : (ofReading reading).date.IsValid := Date.ofDayNumber_isValid _

theorem dayNumber_eq : (ofReading reading).dayNumber =
    Date.dayNumber ⟨(ofReading reading).date.year, (ofReading reading).date.month, 1⟩ +
      ((ofReading reading).date.day - 1) := by
  rw [← dayNumber_add_day]
  exact (Date.dayNumber_ofDayNumber _).symm

theorem clock_eq (l : LocalTime) : l.hour * 3600 + l.minute * 60 + l.second = l.secondOfDay := by
  unfold hour minute second
  omega

end LocalTime

/-! ## Years bound seconds -/

theorem Date.dayNumber_mem {date : Date} (h : date.IsValid) (hy : IsYearSized date.year) :
    -37000000000 < date.dayNumber ∧ date.dayNumber < 37000000000 := by
  have hm := h.marchDay_mem.2
  have hl := yearLength_mem (date.marchYear + 1)
  rw [dayNumber_eq_march h.month_mem]
  unfold marchStart epochShift
  unfold marchYear at *
  unfold IsYearSized largestYear at hy
  omega

namespace Calendar

variable (cal : Calendar)

theorem localTime_eq (t : Instant) : cal.localTime t =
    { LocalTime.ofReading (cal.zone.source.toLocal t.secondsAndNanos.1) with
      nanosecond := t.secondsAndNanos.2 } := rfl

theorem reading_mem {reading : ℤ} (hy : IsYearSized (LocalTime.ofReading reading).date.year) :
    reading.natAbs < 4000000000000000 := by
  have hv := Date.ofDayNumber_isValid (reading / secondsPerDay)
  have hd := Date.dayNumber_mem hv hy
  rw [Date.dayNumber_ofDayNumber] at hd
  unfold secondsPerDay at hd
  omega

/-- An instant in a year of allowed size is an exact whole second. -/
theorem exact_of_year (hday : cal.zone.source.WithinDay) {n : ℤ}
    (hy : IsYearSized (cal.localTime (.ofSeconds n)).date.year) :
    n.natAbs ≤ 2 ^ 53 ∧ (cal.zone.source.toLocal n).natAbs < 4000000000000000 := by
  rw [localTime_eq] at hy
  have hr : (cal.zone.source.toLocal (Instant.ofSeconds n).secondsAndNanos.1).natAbs <
      4000000000000000 := reading_mem hy
  have ht := hday (.ofSeconds (Instant.ofSeconds n).secondsAndNanos.1)
  have hn : n.natAbs ≤ 2 ^ 53 := by
    refine Instant.natAbs_le_of_secondsAndNanos ?_
    unfold OffsetSource.toLocal at hr
    unfold secondsPerDay at ht
    omega
  rw [Instant.secondsAndNanos_ofSeconds hn] at hr
  exact ⟨hn, hr⟩

theorem localTime_ofSeconds {n : ℤ} (hn : n.natAbs ≤ 2 ^ 53) :
    cal.localTime (.ofSeconds n) = .ofReading (cal.zone.source.toLocal n) := by
  rw [localTime_eq, Instant.secondsAndNanos_ofSeconds hn]
  rfl

theorem instantOf_eq_add (dayNumber secondOfDay : ℤ) (resolution : Resolution) :
    cal.instantOf dayNumber secondOfDay 0 resolution =
      Instant.ofSeconds (cal.zone.source.toUtc (dayNumber * secondsPerDay + secondOfDay) resolution) +
        Binary64.ofInt 0 := by
  have hz : Binary64.ofInt (0 % nanosPerSecond) / Binary64.ofInt nanosPerSecond =
      Binary64.ofInt 0 := by decide +kernel
  simp only [instantOf, hz, Int.zero_ediv, add_zero]

theorem instantOf_reading (dayNumber secondOfDay : ℤ) (resolution : Resolution)
    (h : (cal.zone.source.toUtc (dayNumber * secondsPerDay + secondOfDay) resolution).natAbs ≤
      2 ^ 53) :
    cal.instantOf dayNumber secondOfDay 0 resolution =
      .ofSeconds (cal.zone.source.toUtc (dayNumber * secondsPerDay + secondOfDay) resolution) := by
  rw [instantOf_eq_add, Instant.ofSeconds_add_ofInt h (by norm_num) (by rwa [add_zero]), add_zero]

end Calendar

end Almanac
