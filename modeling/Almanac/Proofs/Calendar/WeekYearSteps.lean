import Mathlib
import Almanac.Proofs.Calendar.CycleWeek
import Almanac.Proofs.Calendar.Start

/-!
# Steps of week years

A step of week years goes to the same week and weekday of another week year. The day is found by the
formula of a weekday in a numbered week, and its week is read back by the one for the week of a day.
Both count from the start of the week year, so they agree, but for a week that the week year does
not have: that is the first one of the next.

* `Calendar.weekOfYear_moveToDay_weekYear`: the week and the weekday after a move to a week year.
* **`Calendar.add?_keeps_weekOfYear`**: the week and the weekday after a step.
-/

namespace Almanac

namespace WeekNumbering

variable (weeks : WeekNumbering)

theorem weekdayOf_weekYearStart_add (weekYear week n : ℤ) :
    weekdayOf (weeks.weekYearStart weekYear + 7 * (week - 1) + weeks.placeOf (weekdayOf n)) =
      weekdayOf n := by
  have hstart : weeks.weekYearStart weekYear % 7 = _ := weeks.startOfWeek_emod _
  rw [placeOf_weekdayOf]
  unfold weekdayOf
  omega

end WeekNumbering

namespace Calendar

variable {cal : Calendar} {t : Instant} {amount : ℤ}

theorem add?_yearForWeekOfYear_eq (hne : amount ≠ 0) (hamount : IsFieldSized amount) (wrap : Bool) :
    cal.add? .yearForWeekOfYear amount t wrap = cal.carry? .yearForWeekOfYear amount t := by
  rw [add?, if_neg hne, if_pos hamount]
  cases wrap <;> rfl

variable {offset : FixedOffset} (hzone : cal.zone = .fixed offset)
include hzone

theorem localTime_moveToDay_weekYear {weekYear week place : ℤ} (hyear : IsYearSized weekYear)
    (hweek : 1 ≤ week ∧ week ≤ 53) (hplace : 0 ≤ place ∧ place < 7) (n : ℤ) :
    cal.localTime (cal.moveToDay (cal.localTime (.ofSeconds n))
        (cal.weeks.weekYearStart weekYear + 7 * (week - 1) + place)) =
      (cal.localTime (.ofSeconds n)).onDay
        (cal.weeks.weekYearStart weekYear + 7 * (week - 1) + place) := by
  have hstart := cal.weeks.natAbs_weekYearStart_lt hyear
  rw [localTime_ofSeconds_fixed hzone]
  refine localTime_moveToDay_fixed hzone (offset.isExact_of_lt ?_)
  have hsecond := LocalTime.secondOfDay_mem ((Instant.ofSeconds n).secondsAndNanos.1 + offset.seconds)
  simp only [LocalTime.reading, LocalTime.onDay]
  unfold secondsPerDay at *
  omega

/-- A move to the weekday in a numbered week keeps the weekday and the time of day, and is to that
week, or to the first one of the next week year. -/
theorem weekOfYear_moveToDay_weekYear {weekYear week : ℤ} (hyear : IsYearSized weekYear)
    (hweek : 1 ≤ week ∧ week ≤ 53) {n : ℤ} {t' : Instant}
    (ht' : cal.moveToDay (cal.localTime (.ofSeconds n)) (cal.weeks.weekYearStart weekYear +
      7 * (week - 1) + cal.weeks.placeOf (cal.localTime (.ofSeconds n)).weekday) = t') :
    (cal.localTime t').weekday = (cal.localTime (.ofSeconds n)).weekday ∧
      (cal.localTime (.ofSeconds n)).SameTime (cal.localTime t') ∧
      (cal.localTime t').weekOfYear cal.weeks =
        if week = 53 ∧ cal.weeks.weeksIn weekYear = 52 then (1, weekYear + 1)
        else (week, weekYear) := by
  have hplace := cal.weeks.placeOf_mem (cal.localTime (.ofSeconds n)).weekday
  have hlocal := localTime_moveToDay_weekYear hzone hyear hweek hplace n
  have hcount := cal.weeks.weeksIn_eq weekYear
  have hread := weekOfYear_of_week_le_succ (cal.weeks.weekYearStart_add_weeksIn weekYear)
    (show 1 ≤ week ∧ week ≤ cal.weeks.weeksIn weekYear + 1 by omega) hplace
    (congrArg LocalTime.dayNumber hlocal)
  rw [ht'] at hlocal hread
  refine ⟨?_, ?_, ?_⟩
  · rw [hlocal]
    exact cal.weeks.weekdayOf_weekYearStart_add _ _ _
  · rw [hlocal]
    exact ⟨rfl, rfl⟩
  · -- only the 53rd week can be beyond the last
    rw [hread]
    split <;> split <;> first | rfl | omega

/-- **A step of week years keeps the week, the weekday and the time of day.** It fails only if the
week year that it goes to is too large. The 53rd week of a week year that has 52 is the first one of
the next. -/
theorem add?_keeps_weekOfYear {amount : ℤ} (hamount : IsFieldSized amount) (n : ℤ) (wrap : Bool) :
    ∃ week weekYear, (cal.localTime (.ofSeconds n)).weekOfYear cal.weeks = (week, weekYear) ∧
      (cal.add? .yearForWeekOfYear amount (.ofSeconds n) wrap = none ↔
        amount ≠ 0 ∧ ¬ IsYearSized (weekYear + amount)) ∧
      ∀ t', cal.add? .yearForWeekOfYear amount (.ofSeconds n) wrap = some t' →
        (cal.localTime t').weekday = (cal.localTime (.ofSeconds n)).weekday ∧
        (cal.localTime (.ofSeconds n)).SameTime (cal.localTime t') ∧
        (cal.localTime t').weekOfYear cal.weeks =
          if week = 53 ∧ cal.weeks.weeksIn (weekYear + amount) = 52 then
            (1, weekYear + amount + 1)
          else (week, weekYear + amount) := by
  obtain ⟨weekYear, hmem, -⟩ := cal.exists_weekYear (.ofSeconds n)
  have hcount := cal.weeks.weekYearStart_add_weeksIn weekYear
  have hweeks := cal.weeks.weeksIn_eq weekYear
  have hweek := weekOfYear_of_weekYear hmem
  obtain ⟨week, hday⟩ : ∃ week, week = ((cal.localTime (.ofSeconds n)).dayNumber -
    cal.weeks.weekYearStart weekYear) / 7 + 1 := ⟨_, rfl⟩
  have hweek_mem : 1 ≤ week ∧ week ≤ cal.weeks.weeksIn weekYear := by
    obtain ⟨h₁, h₂⟩ := hmem
    omega
  rw [← hday] at hweek
  refine ⟨week, weekYear, hweek, ?_⟩
  by_cases hzero : amount = 0
  · rw [add?, if_pos hzero, hzero, add_zero]
    refine ⟨by simp, ?_⟩
    rintro t' ⟨⟩
    exact ⟨rfl, ⟨rfl, rfl⟩, by rw [hweek, if_neg (by omega)]⟩
  · rw [add?_yearForWeekOfYear_eq hzero hamount, carry?_yearForWeekOfYear hweek]
    split
    · next hyear =>
      refine ⟨by simp [hyear], fun t' ht' => ?_⟩
      exact weekOfYear_moveToDay_weekYear hzone hyear (by omega) (Option.some.inj ht')
    · next hlarge => exact ⟨by simp [hzero, hlarge], by simp⟩

omit hzone in
/-- The first of January 2021 is in the 53rd ISO week of 2020. The week year after has 52 weeks, so
a year on is the first week of 2022, on the same weekday. -/
theorem add?_keeps_weekOfYear_longWeekYear :
    let cal : Calendar := ⟨⟨2, 4, by decide, by decide⟩, .utc⟩
    (cal.localTime (.ofSeconds 1609502400)).weekOfYear cal.weeks = (53, 2020) ∧
      ∃ t', cal.add? .yearForWeekOfYear 1 (.ofSeconds 1609502400) false = some t' ∧
        (cal.localTime t').weekOfYear cal.weeks = (1, 2022) ∧ (cal.localTime t').weekday = 6 := by
  intro cal
  have hlong : (cal.localTime (.ofSeconds 1609502400)).weekOfYear cal.weeks = (53, 2020) := by
    decide +kernel
  have hweekday : (cal.localTime (.ofSeconds 1609502400)).weekday = 6 := by decide +kernel
  have hshort : cal.weeks.weeksIn 2021 = 52 := by decide +kernel
  obtain ⟨week, weekYear, hweek, hnone, hsome⟩ := add?_keeps_weekOfYear
    (show cal.zone = .fixed _ from rfl) (by decide : IsFieldSized 1) 1609502400 false
  obtain ⟨rfl, rfl⟩ := Prod.mk.inj (hlong.symm.trans hweek)
  obtain ⟨t', ht'⟩ := Option.ne_none_iff_exists'.mp (mt hnone.mp fun h => h.2 (by decide))
  obtain ⟨hsame, -, hmoved⟩ := hsome t' ht'
  rw [if_pos ⟨rfl, hshort⟩] at hmoved
  exact ⟨hlong, t', ht', hmoved, hsame.trans hweekday⟩

end Calendar

end Almanac
