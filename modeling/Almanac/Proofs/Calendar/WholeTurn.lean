import Mathlib
import Almanac.Proofs.Calendar.TimeOfDay

/-!
# Whole turns of cyclic moves

A whole turn leads back to the same place in the container. The time of day is moved by elapsed
seconds, so an hour, a minute or a second turns to the very same instant. Days are moved on the wall
clock, whose reading is resolved again: to its first second, if it has two.

* `LocalTime.turn?`: how much of a unit makes a whole turn.
* `LocalTime.clockShift_turns`, `Calendar.cycle?_turns`: whole turns move nothing, or move to the same
  day.
* **`Calendar.add?_whole_turns`**: where whole turns lead in every zone.
-/

namespace Almanac

variable {unit container : TimeUnit} {turn k n : ℤ}

namespace LocalTime

variable (l : LocalTime)

/-- How much of a unit makes a whole turn inside its container. -/
def turn? : TimeUnit → Option ℤ
  | .day => some l.monthLength
  | .weekday => some 7
  | .weekdayOrdinal => some l.weekdayCount
  | .hour => some 24
  | .minute | .second => some 60
  | _ => none

variable {l}

theorem turn_pos (hd : 1 ≤ l.date.day ∧ l.date.day ≤ l.monthLength)
    (hturn : l.turn? unit = some turn) : 0 < turn := by
  cases unit with
  | day =>
    obtain rfl := Option.some.inj hturn
    omega
  | weekdayOrdinal =>
    obtain rfl := Option.some.inj hturn
    rw [l.weekdayCount_eq hd]
    omega
  | weekday | hour | minute | second =>
    obtain rfl := Option.some.inj hturn
    decide
  | _ => cases hturn

theorem clockShift_turns (hunit : unit.clockContainer? = some container)
    (hturn : l.turn? unit = some turn) : l.clockShift (k * turn) unit = l.clockShift 0 unit := by
  cases unit with
  | hour | minute | second =>
    obtain rfl := Option.some.inj hturn
    simp only [clockShift, Int.add_mul_emod_self_right, add_zero]
  | _ => cases hunit

theorem cycleWeekday_turns (weeks : WeekNumbering) : l.cycleWeekday weeks (k * 7) = l.dayNumber := by
  have hp := weeks.placeOf_mem l.weekday
  rw [cycleWeekday, Int.add_mul_emod_self_right]
  omega

theorem cycleDay_turns (hd : 1 ≤ l.date.day ∧ l.date.day ≤ l.monthLength) :
    l.cycleDay (k * l.monthLength) = l.dayNumber := by
  rw [cycleDay, Int.add_mul_emod_self_right, Int.emod_eq_of_lt] <;> omega

theorem cycleOrdinal_turns (hd : 1 ≤ l.date.day ∧ l.date.day ≤ l.monthLength) :
    l.cycleOrdinal (k * l.weekdayCount) = l.dayNumber := by
  rw [cycleOrdinal, l.weekdayCount_eq hd, Int.add_mul_emod_self_right, Int.emod_eq_of_lt] <;> omega

end LocalTime

namespace Calendar

variable {cal : Calendar} {t : Instant}

theorem cycle?_turns (hclock : unit.isClockUnit = false)
    (hd : 1 ≤ (cal.localTime t).date.day ∧
      (cal.localTime t).date.day ≤ (cal.localTime t).monthLength)
    (hturn : (cal.localTime t).turn? unit = some turn) : cal.cycle? unit (k * turn) t =
      some (cal.moveToDay (cal.localTime t) (cal.localTime t).dayNumber) := by
  cases unit with
  | day =>
    obtain rfl := Option.some.inj hturn
    exact congrArg (fun day => some (cal.moveToDay _ day)) (LocalTime.cycleDay_turns hd)
  | weekday =>
    obtain rfl := Option.some.inj hturn
    exact congrArg (fun day => some (cal.moveToDay _ day)) (LocalTime.cycleWeekday_turns _)
  | weekdayOrdinal =>
    obtain rfl := Option.some.inj hturn
    exact congrArg (fun day => some (cal.moveToDay _ day)) (LocalTime.cycleOrdinal_turns hd)
  | hour | minute | second | nanosecond => cases hclock
  | _ => cases hturn

theorem exactAround_of_year (hday : cal.zone.source.WithinDay)
    (hyear : IsYearSized (cal.localTime (.ofSeconds n)).date.year) :
    ExactAround (cal.zone.source.toLocal n) := by
  have hreading := (cal.exact_of_year hday hyear).2
  unfold ExactAround secondsPerDay
  omega

theorem add?_clock_whole_turns (hclock : unit.isClockUnit = true) (hn : n.natAbs ≤ 2 ^ 53)
    (hturn : (cal.localTime (.ofSeconds n)).turn? unit = some turn)
    (hamount : IsFieldSized (k * turn)) :
    cal.add? unit (k * turn) (.ofSeconds n) true = some (.ofSeconds n) := by
  obtain ⟨container, hunit⟩ : ∃ container, unit.clockContainer? = some container := by
    cases unit with
    | hour | minute | second => exact ⟨_, rfl⟩
    | nanosecond => cases hturn
    | _ => cases hclock
  by_cases hzero : k * turn = 0
  · rw [add?, if_pos hzero]
  · have hs := LocalTime.secondOfDay_mem (cal.zone.source.toLocal n)
    rw [add?, if_neg hzero, if_pos hamount, if_pos rfl, cycle?_clock hunit,
      LocalTime.clockShift_turns hunit hturn, cal.localTime_ofSeconds hn,
      LocalTime.clockShift_zero _ hs, Instant.ofSeconds_add_ofInt hn (by decide) (by omega),
      add_zero]

theorem add?_day_whole_turns (hday : cal.zone.source.WithinDay) (hclock : unit.isClockUnit = false)
    (hyear : IsYearSized (cal.localTime (.ofSeconds n)).date.year) (hk : k ≠ 0)
    (hturn : (cal.localTime (.ofSeconds n)).turn? unit = some turn)
    (hamount : IsFieldSized (k * turn)) :
    cal.add? unit (k * turn) (.ofSeconds n) true =
      some (.ofSeconds (cal.zone.source.toUtc (cal.zone.source.toLocal n) {})) := by
  have hn := (cal.exact_of_year hday hyear).1
  have hlocal := cal.localTime_ofSeconds hn
  have hd : 1 ≤ (cal.localTime (.ofSeconds n)).date.day ∧
      (cal.localTime (.ofSeconds n)).date.day ≤ (cal.localTime (.ofSeconds n)).monthLength := by
    rw [hlocal]
    exact (LocalTime.date_isValid _).day_mem
  have hexact := exactAround_of_year hday hyear
  have hstay : cal.zone.source.toLocal n + 0 * secondsPerDay = cal.zone.source.toLocal n := by
    rw [zero_mul, add_zero]
  have hmove := moveToDay_ofReading (hstay.symm ▸ OffsetSource.natAbs_toUtc_le hday hexact {})
  rw [hstay, add_zero] at hmove
  rw [add?, if_neg (mul_ne_zero hk (LocalTime.turn_pos hd hturn).ne'), if_pos hamount, if_pos rfl,
    cycle?_turns hclock hd hturn, hlocal, hmove]

/-- **Whole turns.** The time of day turns to the very same instant. Days turn to what the reading is
resolved to, which is its first second: the instant itself, or the first pass of a fold if the turn
began at the second one. -/
theorem add?_whole_turns (hday : cal.zone.source.WithinDay)
    (hyear : IsYearSized (cal.localTime (.ofSeconds n)).date.year)
    (hturn : (cal.localTime (.ofSeconds n)).turn? unit = some turn)
    (hamount : IsFieldSized (k * turn)) :
    (unit.isClockUnit = true ∨ k = 0 →
      cal.add? unit (k * turn) (.ofSeconds n) true = some (.ofSeconds n)) ∧
    (unit.isClockUnit = false → k ≠ 0 →
      cal.add? unit (k * turn) (.ofSeconds n) true =
        some (.ofSeconds (cal.zone.source.toUtc (cal.zone.source.toLocal n) {})) ∧
      (cal.zone.source.ChangesAtMostOnce (cal.zone.source.toLocal n) → ∃ m,
        cal.add? unit (k * turn) (.ofSeconds n) true = some (.ofSeconds m) ∧
        IsLeast (cal.zone.source.secondsOf (cal.zone.source.toLocal n)) m ∧
        (m = n ∨ m < n ∧ cal.zone.source.secondsOf (cal.zone.source.toLocal n) = {m, n}))) := by
  have hn := (cal.exact_of_year hday hyear).1
  have hexact := exactAround_of_year hday hyear
  refine ⟨?_, fun hclock hk => ?_⟩
  · rintro (hclock | rfl)
    · exact add?_clock_whole_turns hclock hn hturn hamount
    · rw [zero_mul, add?, if_pos rfl]
  have hadd := add?_day_whole_turns hday hclock hyear hk hturn hamount
  refine ⟨hadd, fun hchange => ?_⟩
  have hleast := (OffsetSource.toUtc_isLeast_or_isGreatest hday hchange
    (cal.zone.namesChange hexact.1 hexact.2) ⟨n, rfl⟩ {}).1 rfl
  refine ⟨_, hadd, hleast, ?_⟩
  rcases (hleast.2 rfl).eq_or_lt with heq | hlt
  · exact Or.inl heq
  · exact Or.inr ⟨hlt, OffsetSource.secondsOf_eq_pair hday hchange hleast.1 rfl hlt⟩

/-- From the second 02:30 in Berlin on the last Sunday of October 2020, twice the four Sundays of the
month lead to the first 02:30, and sixty minutes nowhere else. -/
theorem add?_whole_turns_secondPass :
    let cal : Calendar := ⟨.sunday, .region "Europe/Berlin" Region.berlin⟩
    cal.add? .weekdayOrdinal 8 (.ofSeconds 1603589400) true = some (.ofSeconds 1603585800) ∧
      cal.add? .minute 60 (.ofSeconds 1603589400) true = some (.ofSeconds 1603589400) := by
  intro cal
  have hday : cal.zone.source.WithinDay :=
    OffsetTable.withinDay_source (by decide +kernel : Region.berlin.WithinDay)
  have hchange : cal.zone.source.ChangesOnceAround 1603593000 1603587600 7200 3600 :=
    OffsetTable.changesOnceAround_source (by decide) (by decide +kernel) (by decide +kernel)
      (by decide +kernel) (by decide) (by decide) (by decide)
  have hlocal : cal.zone.source.toLocal 1603589400 = 1603593000 := by
    rw [OffsetSource.toLocal, hchange.totalAt_after _ (by decide) (by decide)]
    rfl
  have hyear : IsYearSized (cal.localTime (.ofSeconds 1603589400)).date.year := by decide +kernel
  have hcount : (cal.localTime (.ofSeconds 1603589400)).turn? .weekdayOrdinal = some 4 := by
    decide +kernel
  have hminutes : (cal.localTime (.ofSeconds 1603589400)).turn? .minute = some 60 := rfl
  obtain ⟨-, hdays⟩ := add?_whole_turns hday hyear hcount (by decide : IsFieldSized (2 * 4))
  obtain ⟨-, hfirst⟩ := hdays rfl (by decide)
  rw [hlocal] at hfirst
  obtain ⟨m, hadd, hleast, -⟩ := hfirst (Or.inr ⟨_, _, _, hchange⟩)
  have hmem := (hchange.mem_secondsOf_iff hday).mp hleast.1
  have hle := hleast.2 ((hchange.mem_secondsOf_iff hday).mpr (Or.inl ⟨rfl, by decide⟩))
  obtain rfl : m = 1603585800 := by omega
  have hsame := (add?_whole_turns hday hyear hminutes (by decide : IsFieldSized (1 * 60))).1
    (Or.inl rfl)
  exact ⟨hadd, hsame⟩

/-- A whole week round from the second 02:30 is not the second 02:30. -/
theorem add?_weekday_not_whole :
    let cal : Calendar := ⟨.sunday, .region "Europe/Berlin" Region.berlin⟩
    cal.add? .weekday 7 (.ofSeconds 1603589400) true ≠ some (.ofSeconds 1603589400) := by
  decide +kernel

end Calendar

end Almanac
