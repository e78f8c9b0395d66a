import Mathlib
import Almanac.Proofs.Calendar.Amounts
import Almanac.Proofs.Calendar.Cycle
import Almanac.Proofs.Calendar.Extent

/-!
# Cyclic moves by weeks of the month

The month is filled up to whole weeks from its first numbered week to the week of its last day. A
cyclic move turns round among these days, a week at a time, and a day outside the month that it
comes to is replaced by the first or the last day of the month, which is in the same week.

* `LocalTime.cycleWeekOfMonth_eq`: the day after the move, counted from the first numbered week.
* `emod_seven_mul`: a turn among the days of whole weeks is one among the weeks.
* `LocalTime.WeekOfMonthTurned`: the local times before and after the move.
* **`Calendar.add?_turns_weeksOfMonth`**: the move keeps the month and the time of day, turns the
  week round, and keeps the weekday unless it ends on the first or the last day of the month.
-/

namespace Almanac

theorem emod_seven_mul (n : ℤ) {count : ℤ} (hcount : 0 < count) :
    n % (7 * count) = 7 * (n / 7 % count) + n % 7 := by
  have hweeks := emod_mem (n / 7) hcount
  have hdays := emod_mem n (show (0 : ℤ) < 7 by decide)
  have hsplit : n = 7 * (n / 7 % count) + n % 7 + 7 * count * (n / 7 / count) := by
    have hweek := Int.emod_add_mul_ediv (n / 7) count
    have hday := Int.emod_add_mul_ediv n 7
    linear_combination -7 * hweek - hday
  conv_lhs => rw [hsplit]
  rw [Int.add_mul_emod_self_left, Int.emod_eq_of_lt (by omega) (by omega)]

namespace LocalTime

/-- How a cyclic move by `amount` weeks of a month with `count` numbered weeks changes a local
time. -/
structure WeekOfMonthTurned (weeks : WeekNumbering) (count amount : ℤ) (l l' : LocalTime) : Prop where
  year_eq : l'.date.year = l.date.year
  month_eq : l'.date.month = l.date.month
  sameTime : l.SameTime l'
  week_eq : l'.value weeks .weekOfMonth = (l.value weeks .weekOfMonth - 1 + amount) % count + 1
  weekday_eq : l'.weekday = l.weekday ∨ l'.date.day = 1 ∨ l'.date.day = l'.monthLength

variable {l : LocalTime} (hdate : l.date = Date.ofDayNumber l.dayNumber) {index : ℤ}
  (hmonth : l.dayNumber ∈ monthDays index) (weeks : WeekNumbering)
include hdate hmonth

theorem cycleWeekOfMonth_eq {count : ℤ} (amount : ℤ) (hcount : count =
      (monthStart (index + 1) - 1 - weeks.firstWeek (monthStart index)) / 7 + 1) :
    l.cycleWeekOfMonth weeks amount = max (monthStart index) (min (monthStart (index + 1) - 1)
      (weeks.firstWeek (monthStart index) +
        (l.dayNumber - weeks.firstWeek (monthStart index) + 7 * amount) % (7 * count))) := by
  have hlength := monthLength_of_month hdate hmonth
  have hday : l.date.day = l.dayNumber - monthStart index + 1 := by
    rw [hdate, Date.ofDayNumber_of_month hmonth]
  have hm := weeks.minimumDays_mem
  have hw := weeks.firstWeek_mem (monthStart index)
  have hw' := weeks.firstWeek_emod (monthStart index)
  have hfirst := weeks.firstWeek_eq (monthStart index)
  rw [WeekNumbering.placeOf_weekdayOf] at hfirst
  obtain ⟨h₁, h₂⟩ := hmonth
  simp only [cycleWeekOfMonth, weekday, WeekNumbering.placeOf_weekdayOf, hlength, hday]
  generalize monthStart index = first at *
  generalize monthStart (index + 1) = next at *
  generalize weeks.firstWeek first = week at *
  -- both ends of the days that are turned round, from the first of the month
  have hstart : (if 7 - ((l.dayNumber + 5 - weeks.firstWeekday) % 7 - (l.dayNumber - first + 1) + 1) % 7
      < weeks.minimumDays then (8 : ℤ) else 1) -
        ((l.dayNumber + 5 - weeks.firstWeekday) % 7 - (l.dayNumber - first + 1) + 1) % 7 =
      week - first + 1 := by
    omega
  have hspan : next - first + 7 - (next - first - (l.dayNumber - first + 1) +
      (l.dayNumber + 5 - weeks.firstWeekday) % 7) % 7 - (week - first + 1) = 7 * count := by
    omega
  have hmoved : l.dayNumber - first + 1 + 7 * amount - (week - first + 1) =
      l.dayNumber - week + 7 * amount := by
    ring
  rw [hstart, hspan, hmoved]
  omega

theorem cycleWeekOfMonth_mem (amount : ℤ) : l.cycleWeekOfMonth weeks amount ∈ monthDays index := by
  have hlong := monthStart_strictMono (lt_add_one index)
  rw [cycleWeekOfMonth_eq hdate hmonth weeks amount rfl]
  exact ⟨le_max_left _ _, by omega⟩

/-- **A cyclic move turns the weeks of the month round.** -/
theorem weekOfMonthTurned_onDay {count : ℤ} (amount : ℤ) (hcount : count =
      (monthStart (index + 1) - 1 - weeks.firstWeek (monthStart index)) / 7 + 1) :
    l.WeekOfMonthTurned weeks count amount (l.onDay (l.cycleWeekOfMonth weeks amount)) := by
  have hcycle := cycleWeekOfMonth_eq hdate hmonth weeks amount hcount
  have hw := weeks.firstWeek_mem (monthStart index)
  have hlong := monthStart_succ index
  have hlength := monthLength_mem (index / 12) (index % 12 + 1)
  have hweek := weekOfMonth_of_month hdate hmonth weeks
  have hturn := emod_seven_mul (l.dayNumber - weeks.firstWeek (monthStart index) + 7 * amount)
    (show 0 < count by omega)
  rw [Int.add_mul_ediv_left _ _ (by decide), Int.add_mul_emod_self_left] at hturn
  have hmem := emod_mem ((l.dayNumber - weeks.firstWeek (monthStart index)) / 7 + amount)
    (show 0 < count by omega)
  rw [hturn] at hcycle
  have hmonth' : (l.onDay (l.cycleWeekOfMonth weeks amount)).dayNumber ∈ monthDays index :=
    cycleWeekOfMonth_mem hdate hmonth weeks amount
  generalize l.cycleWeekOfMonth weeks amount = day at *
  have hdate' : (l.onDay day).date =
      ⟨index / 12, index % 12 + 1, day - monthStart index + 1⟩ := Date.ofDayNumber_of_month hmonth'
  refine ⟨?_, ?_, ⟨rfl, rfl⟩, ?_, ?_⟩
  · rw [hdate', hdate, Date.ofDayNumber_of_month hmonth]
  · rw [hdate', hdate, Date.ofDayNumber_of_month hmonth]
  · -- a day that is held to the month stays in its week
    rw [weekOfMonth_of_month rfl hmonth', hweek, add_sub_cancel_right]
    change (day - weeks.firstWeek (monthStart index)) / 7 + 1 = _
    omega
  · rw [monthLength_of_month rfl hmonth', hdate']
    change weekdayOf day = weekdayOf l.dayNumber ∨ day - monthStart index + 1 = 1 ∨
      day - monthStart index + 1 = monthStart (index + 1) - monthStart index
    unfold weekdayOf
    omega

end LocalTime

namespace Calendar

variable {cal : Calendar}

theorem localTime_instantOf {offset : FixedOffset} (hzone : cal.zone = .fixed offset)
    {reading day : ℤ} (hshows : offset.Shows
      (offset.instantAt ((LocalTime.ofReading reading).onDay day).reading)
      ((LocalTime.ofReading reading).onDay day).reading) (resolution : Resolution) :
    cal.localTime (cal.instantOf day (LocalTime.ofReading reading).secondOfDay 0 resolution) =
      (LocalTime.ofReading reading).onDay day := by
  rw [cal.instantOf_eq_add, toUtc_fixed hzone]
  exact ((FixedOffset.shows_instantAt_add_zero hshows).localTime_eq hzone).trans
    (LocalTime.ofReading_onDay reading day)

theorem shows_onDay_of_month {offset : FixedOffset} (hzone : cal.zone = .fixed offset) {n index day : ℤ}
    (hn : n.natAbs + 31 * secondsPerDay ≤ 2 ^ 53)
    (hmonth : (cal.localTime (.ofSeconds n)).dayNumber ∈ monthDays index)
    (hday : day ∈ monthDays index) :
    offset.Shows (offset.instantAt ((cal.localTime (.ofSeconds n)).onDay day).reading)
      ((cal.localTime (.ofSeconds n)).onDay day).reading := by
  have hlength := monthLength_mem (index / 12) (index % 12 + 1)
  have hsucc := monthStart_succ index
  unfold secondsPerDay at hn
  rw [cal.localTime_ofSeconds (by omega), toLocal_fixed hzone] at hmonth ⊢
  have hreading := LocalTime.reading_eq (n + offset.seconds)
  obtain ⟨h₁, h₂⟩ := hmonth
  obtain ⟨h₁', h₂'⟩ := hday
  refine FixedOffset.shows_instantAt ?_
  unfold FixedOffset.IsExact
  simp only [LocalTime.reading, LocalTime.onDay]
  unfold secondsPerDay at hreading ⊢
  omega

/-- **A cyclic move by weeks of the month turns round among the numbered weeks of the month.** It
keeps the month and the time of day, and the weekday unless it ends on the first or the last day of
the month. In a fixed zone the result has the local time that is asked for if the second of that
local time is held exactly, as in all months well inside the exact seconds. The steps of such a move
fit 64 bits (`Checked.add?_eq_of_isInner`). -/
theorem add?_turns_weeksOfMonth (cal : Calendar) {amount : ℤ} (hne : amount ≠ 0)
    (hamount : IsFieldSized amount) : ∀ t : Instant, t.IsInner →
      ∃ r l', cal.range? .weekOfMonth .month t = some r ∧
        (cal.localTime t).WeekOfMonthTurned cal.weeks (r.stop - 1) amount l' ∧
        cal.add? .weekOfMonth amount t true =
          some (cal.instantOf l'.dayNumber l'.secondOfDay l'.nanosecond {}) ∧
        ∀ offset n, cal.zone = .fixed offset → t = .ofSeconds n →
          n.natAbs + 31 * secondsPerDay ≤ 2 ^ 53 ∨
            offset.Shows (offset.instantAt l'.reading) l'.reading →
          cal.localTime (cal.instantOf l'.dayNumber l'.secondOfDay l'.nanosecond {}) = l' := by
  intro t _
  obtain ⟨index, hmonth⟩ := cal.exists_month t
  have hturned := LocalTime.weekOfMonthTurned_onDay rfl hmonth cal.weeks amount rfl
  refine ⟨_, (cal.localTime t).onDay ((cal.localTime t).cycleWeekOfMonth cal.weeks amount),
    range?_weekOfMonth hmonth, ?_, ?_, ?_⟩
  · convert hturned using 1
    dsimp only
    omega
  · rw [add?, if_neg hne, if_pos hamount, if_pos rfl]
    rfl
  · rintro offset n hzone rfl hshows
    have hshows := hshows.elim (shows_onDay_of_month hzone · hmonth
      (LocalTime.cycleWeekOfMonth_mem rfl hmonth cal.weeks amount)) id
    rw [localTime_ofSeconds_fixed hzone] at hshows ⊢
    exact localTime_instantOf hzone hshows _

/-- With ISO weeks, August 2021 begins in week `0`. Five of its weeks on from that Sunday is week `5`
again, which has no Sunday in the month: the move ends on the last day. -/
theorem add?_turns_weeksOfMonth_lastDay :
    let cal : Calendar := ⟨⟨2, 4, by decide, by decide⟩, .utc⟩
    cal.range? .weekOfMonth .month (.ofSeconds 1627819200) = some ⟨0, 6⟩ ∧
      ∃ t', cal.add? .weekOfMonth 5 (.ofSeconds 1627819200) true = some t' ∧
        (cal.localTime t').value cal.weeks .weekOfMonth = 5 ∧
        (cal.localTime t').date.day = 31 ∧ (cal.localTime t').secondOfDay = 43200 := by
  intro cal
  have hweeks : cal.range? .weekOfMonth .month (.ofSeconds 1627819200) = some ⟨0, 6⟩ := by
    decide +kernel
  have hweek : (cal.localTime (.ofSeconds 1627819200)).value cal.weeks .weekOfMonth = 0 := by
    decide +kernel
  have htime : (cal.localTime (.ofSeconds 1627819200)).secondOfDay = 43200 := by decide +kernel
  have hlast : cal.add? .weekOfMonth 5 (.ofSeconds 1627819200) true =
      some (.ofSeconds 1630411200) := by decide +kernel
  obtain ⟨r, l', hrange, hturned, hadd, hlocal⟩ :=
    add?_turns_weeksOfMonth cal (by decide : (5 : ℤ) ≠ 0) (by decide) (.ofSeconds 1627819200)
      (by decide +kernel)
  obtain rfl := Option.some.inj (hrange.symm.trans hweeks)
  have hlocal := hlocal _ _ rfl rfl (Or.inl (by decide))
  refine ⟨hweeks, _, hadd, ?_, ?_, ?_⟩
  · rw [hlocal, hturned.week_eq, hweek]
    rfl
  · rw [Option.some.inj (hadd.symm.trans hlast)]
    decide +kernel
  · rw [hlocal, hturned.sameTime.1, htime]

/-- Far out a second that is a week later is not held, and the time of day is rounded with it. -/
theorem add?_weekOfMonth_beyond_exact :
    ∃ t', standard.add? .weekOfMonth 1 (.ofSeconds 1152921504606846976) true = some t' ∧
      ¬ (standard.localTime (.ofSeconds 1152921504606846976)).SameTime (standard.localTime t') := by
  refine ⟨.ofSeconds 1152921504607451648, by decide +kernel, ?_⟩
  unfold LocalTime.SameTime
  decide +kernel

end Calendar

end Almanac
