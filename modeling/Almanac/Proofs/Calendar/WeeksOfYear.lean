import Mathlib
import Almanac.Proofs.Calendar.CycleWeek
import Almanac.Calendar.Position

/-!
# The weeks of a year

The range of the weeks in a year has the weeks of the week year, while the position of a week in a
year counts from the first week of the calendar year. The two agree on all days but those around the
new year that are in the week year before or after.

* `Calendar.range?_weekOfYear_year`: the range, by the week year.
* `Calendar.ordinality?_weekOfYear_year`: the position, by the calendar year.
* **`Calendar.range?_follows_weekYear`**: when two ranges agree, and which positions are inside.
* `Calendar.range?_weekOfYear_parts`: two days of one year with different ranges.
-/

namespace Almanac

namespace Calendar

variable {cal : Calendar} {t : Instant} {weekYear : ℤ}

theorem range?_weekOfYear_year (h : t ∈ cal.onDays (Set.Ico (cal.weeks.weekYearStart weekYear)
      (cal.weeks.weekYearStart (weekYear + 1)))) :
    cal.range? .weekOfYear .year t = some ⟨1, cal.weeks.weeksIn weekYear + 1⟩ :=
  range?_weekOfYear (cal.weeks.weekYearStart_add_weeksIn weekYear) h

theorem dayOfYear_localTime (cal : Calendar) (t : Instant) : (cal.localTime t).date.dayOfYear =
    (cal.localTime t).dayNumber - Date.dayNumber ⟨(cal.localTime t).date.year, 1, 1⟩ + 1 := by
  have hnumber : (cal.localTime t).date.dayNumber = (cal.localTime t).dayNumber :=
    Date.dayNumber_ofDayNumber _
  rw [Date.dayOfYear, hnumber]

theorem ordinality?_weekOfYear_year (cal : Calendar) (t : Instant) :
    cal.ordinality? .weekOfYear .year t = some (((cal.localTime t).dayNumber -
      cal.weeks.weekYearStart (cal.localTime t).date.year) / 7 + 1) := by
  have hweek : cal.ordinality? .weekOfYear .year t = some (cal.weeks.weekAt
      (cal.localTime t).date.dayOfYear (cal.localTime t).date.dayOfYear
      (cal.localTime t).weekday) := rfl
  rw [hweek, dayOfYear_localTime, WeekNumbering.weekYearStart_eq_firstWeek]
  exact congrArg some (cal.weeks.weekAt_eq_firstWeek _ _)

theorem dayNumber_near_weekYear (cal : Calendar) (t : Instant) :
    cal.weeks.weekYearStart (cal.localTime t).date.year - 7 < (cal.localTime t).dayNumber ∧
      (cal.localTime t).dayNumber <
        cal.weeks.weekYearStart ((cal.localTime t).date.year + 1) + 7 := by
  have hday : 1 ≤ (cal.localTime t).date.dayOfYear ∧
      (cal.localTime t).date.dayOfYear ≤ yearLength (cal.localTime t).date.year :=
    (Date.ofDayNumber_isValid (cal.localTime t).dayNumber).dayOfYear_mem
  rw [dayOfYear_localTime] at hday
  have hfirst := cal.weeks.firstWeek_mem (Date.dayNumber ⟨(cal.localTime t).date.year, 1, 1⟩)
  have hnext := cal.weeks.firstWeek_mem (Date.dayNumber ⟨(cal.localTime t).date.year + 1, 1, 1⟩)
  have hlength := dayNumber_next_year (cal.localTime t).date.year
  rw [← WeekNumbering.weekYearStart_eq_firstWeek] at hfirst hnext
  omega

/-- **The range of the weeks in a year is that of the week year.** Two instants have the same range
if their week years have as many weeks, as on all days of a year that are in the week year of that
number. There the position in the year is the week, and inside the range. Before the first week it is
`0`, and outside; after the last week it is one more than the weeks, and inside only if the next week
year has that many. -/
theorem range?_follows_weekYear (cal : Calendar) (t : Instant) :
    ∃ year week weekYear position r, (cal.localTime t).date.year = year ∧
      (cal.localTime t).weekOfYear cal.weeks = (week, weekYear) ∧
      (weekYear = year - 1 ∨ weekYear = year ∨ weekYear = year + 1) ∧
      cal.range? .weekOfYear .year t = some r ∧ r = ⟨1, cal.weeks.weeksIn weekYear + 1⟩ ∧
      cal.ordinality? .weekOfYear .year t = some position ∧
      (weekYear = year - 1 → position = 0) ∧
      (weekYear = year → position = week) ∧
      (weekYear = year + 1 → position = cal.weeks.weeksIn year + 1) ∧
      (position ∈ r.values ↔ weekYear = year ∨
        weekYear = year + 1 ∧ cal.weeks.weeksIn year < cal.weeks.weeksIn (year + 1)) ∧
      ∀ t', cal.range? .weekOfYear .year t' = cal.range? .weekOfYear .year t ↔
        cal.weeks.weeksIn ((cal.localTime t').value cal.weeks .yearForWeekOfYear) =
          cal.weeks.weeksIn weekYear := by
  obtain ⟨weekYear, hmem, hnear⟩ := cal.exists_weekYear t
  have hrange := range?_weekOfYear_year hmem
  have hposition := cal.ordinality?_weekOfYear_year t
  have hweek := weekOfYear_of_weekYear hmem
  have hyear := cal.dayNumber_near_weekYear t
  obtain ⟨hfrom, hto⟩ : _ ≤ (cal.localTime t).dayNumber ∧ (cal.localTime t).dayNumber < _ := hmem
  generalize (cal.localTime t).date.year = year at *
  generalize (cal.localTime t).dayNumber = day at *
  have hcount := cal.weeks.weekYearStart_add_weeksIn year
  have hweeks := cal.weeks.weeksIn_eq year
  have hside : weekYear = year - 1 ∨ weekYear = year ∨ weekYear = year + 1 := by omega
  refine ⟨year, _, weekYear, _, _, rfl, hweek, hside, hrange, rfl, hposition, ?_, ?_, ?_, ?_, ?_⟩
  · rintro rfl
    rw [Int.sub_add_cancel] at hto
    omega
  · rintro rfl
    rfl
  · rintro rfl
    omega
  · rw [ValueRange.values, Set.mem_Ico]
    dsimp only
    obtain rfl | rfl | rfl := hside
    · rw [Int.sub_add_cancel] at hto
      omega
    · omega
    · omega
  · intro t'
    obtain ⟨other, hother, -⟩ := cal.exists_weekYear t'
    have hvalue : (cal.localTime t').value cal.weeks .yearForWeekOfYear = other :=
      congrArg Prod.snd (weekOfYear_of_weekYear hother)
    rw [range?_weekOfYear_year hother, hrange, hvalue, Option.some_inj, ValueRange.mk.injEq]
    omega

/-- With weeks from Sunday, the last days of 1999 are in the week year 2000, which has 53 weeks, so
that June and December have different ranges. The last day of 2000 is in its 54th week, outside. -/
theorem range?_weekOfYear_parts :
    (standard.localTime (.ofSeconds 928195200)).date.year = 1999 ∧
      (standard.localTime (.ofSeconds 946641600)).date.year = 1999 ∧
      standard.range? .weekOfYear .year (.ofSeconds 928195200) = some ⟨1, 53⟩ ∧
      standard.range? .weekOfYear .year (.ofSeconds 946641600) = some ⟨1, 54⟩ ∧
      standard.ordinality? .weekOfYear .year (.ofSeconds 928195200) = some 23 ∧
      standard.ordinality? .weekOfYear .year (.ofSeconds 946641600) = some 53 ∧
      standard.range? .weekOfYear .year (.ofSeconds 978264000) = some ⟨1, 53⟩ ∧
      standard.ordinality? .weekOfYear .year (.ofSeconds 978264000) = some 54 := by
  decide +kernel

end Calendar

end Almanac
