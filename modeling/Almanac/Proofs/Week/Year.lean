import Mathlib
import Almanac.Proofs.Date.DayNumber
import Almanac.Proofs.Week.Formula

/-!
# Week years

A week year begins with the first week of its calendar year, that is with the week that holds as
many days of January as a first week must have. Week years follow each other without gaps.

* `WeekNumbering.weekYearStart`: the first day of a week year.
* `weekYearStart_succ`: a week year has 52 or 53 weeks; `WeekNumbering.weeksIn` counts them.
* `dayAt_firstWeek` and `dayAt_weekYear`: its first day, and that of a weekday in one of its weeks.
* `weekOfYear_eq`: the three cases of a day's week and week year.
* **`weekOfYear_weekYearStart`**: they are those of the week year that holds the day.
-/

namespace Almanac

namespace WeekNumbering

variable (weeks : WeekNumbering)

/-- The first day of the week that holds day `minimumDays` of January of `year`. -/
def weekYearStart (year : Int) : Int :=
  weeks.startOfWeek (Date.dayNumber ⟨year, 1, weeks.minimumDays⟩)

theorem weekYearStart_eq_firstWeek (year : Int) :
    weeks.weekYearStart year = weeks.firstWeek (Date.dayNumber ⟨year, 1, 1⟩) := by
  rw [weekYearStart, firstWeek, dayNumber_add_day]
  congr 1
  omega

theorem dayAt_firstWeek (weekYear : Int) :
    weeks.dayAt (Date.dayNumber ⟨weekYear, 1, 1⟩) 1 none = weeks.weekYearStart weekYear := by
  rw [dayAt_eq_firstWeek, ← weekYearStart_eq_firstWeek, sub_self, mul_zero, add_zero, add_zero]

theorem dayAt_weekYear (weekYear week weekday : Int) :
    weeks.dayAt (Date.dayNumber ⟨weekYear, 1, 1⟩) week (some weekday) =
      weeks.weekYearStart weekYear + 7 * (week - 1) + weeks.placeOf weekday := by
  rw [dayAt_eq_firstWeek, ← weekYearStart_eq_firstWeek]

theorem weekYearStart_succ (year : Int) :
    weeks.weekYearStart (year + 1) - weeks.weekYearStart year = 364 ∨
      weeks.weekYearStart (year + 1) - weeks.weekYearStart year = 371 := by
  have hl := yearLength_mem year
  have hm := weeks.firstWeekday_mem
  -- both are the first day of a week, and they are a year apart up to six days
  rw [weekYearStart, weekYearStart, startOfWeek_eq, startOfWeek_eq, dayNumber_add_day,
    dayNumber_add_day year, dayNumber_next_year]
  omega

/-- The number of the weeks of a week year. -/
def weeksIn (year : Int) : Int := (weeks.weekYearStart (year + 1) - weeks.weekYearStart year) / 7

theorem weeksIn_eq (year : Int) : weeks.weeksIn year = 52 ∨ weeks.weeksIn year = 53 := by
  have h := weeks.weekYearStart_succ year
  unfold weeksIn
  omega

theorem weekYearStart_add_weeksIn (year : Int) :
    weeks.weekYearStart (year + 1) = weeks.weekYearStart year + 7 * weeks.weeksIn year := by
  have h := weeks.weekYearStart_succ year
  unfold weeksIn
  omega

theorem weekYearStart_strictMono : StrictMono weeks.weekYearStart := by
  refine strictMono_int_of_lt_succ fun year => ?_
  have h := weeks.weekYearStart_succ year
  omega

theorem weekYear_unique {n year other : Int}
    (h : weeks.weekYearStart year ≤ n ∧ n < weeks.weekYearStart (year + 1))
    (h' : weeks.weekYearStart other ≤ n ∧ n < weeks.weekYearStart (other + 1)) : other = year := by
  have h₁ := weeks.weekYearStart_strictMono.lt_iff_lt.mp (h.1.trans_lt h'.2)
  have h₂ := weeks.weekYearStart_strictMono.lt_iff_lt.mp (h'.1.trans_lt h.2)
  omega

/-- The week and the week year of a day by where the day lies: before the first week of its
calendar year, in a week of that year, or in the first week of the next one. -/
theorem weekOfYear_eq {year dayOfYear n : Int} (hn : n = Date.dayNumber ⟨year, 1, dayOfYear⟩)
    (hd : 1 ≤ dayOfYear ∧ dayOfYear ≤ yearLength year) :
    weeks.weekOfYear year dayOfYear (weekdayOf n) =
      if n < weeks.weekYearStart year then ((n - weeks.weekYearStart (year - 1)) / 7 + 1, year - 1)
      else if n < weeks.weekYearStart (year + 1) then
        ((n - weeks.weekYearStart year) / 7 + 1, year)
      else (1, year + 1) := by
  have hy := dayNumber_next_year year
  have hy' := dayNumber_next_year (year - 1)
  rw [Int.sub_add_cancel] at hy'
  rw [dayNumber_add_day] at hn
  have hweek : weeks.weekAt dayOfYear dayOfYear (weekdayOf n) =
      (n - weeks.weekYearStart year) / 7 + 1 := by
    rw [weekYearStart_eq_firstWeek, ← weekAt_eq_firstWeek]
    congr 1 <;> omega
  have hbefore : weeks.weekAt (dayOfYear + yearLength (year - 1)) (dayOfYear + yearLength (year - 1))
      (weekdayOf n) = (n - weeks.weekYearStart (year - 1)) / 7 + 1 := by
    rw [weekYearStart_eq_firstWeek, ← weekAt_eq_firstWeek]
    congr 1 <;> omega
  have hzero : (n - weeks.weekYearStart year) / 7 + 1 = 0 ↔ n < weeks.weekYearStart year := by
    have hf := weeks.firstWeek_mem (Date.dayNumber ⟨year, 1, 1⟩)
    rw [weekYearStart_eq_firstWeek]
    omega
  have hlast : (yearLength year - 5 ≤ dayOfYear ∧
      weeks.minimumDays ≤ 6 - (weeks.placeOf (weekdayOf n) + yearLength year - dayOfYear) % 7 ∧
      yearLength year < dayOfYear + 7 - weeks.placeOf (weekdayOf n)) ↔
        weeks.weekYearStart (year + 1) ≤ n := by
    have hm := weeks.minimumDays_mem
    have hf := weeks.firstWeekday_mem
    rw [weekYearStart_eq_firstWeek, firstWeek, startOfWeek_eq, placeOf_weekdayOf, hy]
    omega
  simp only [weekOfYear, hweek, hbefore, hzero, hlast]
  split
  · rfl
  · split <;> split <;> first | rfl | omega

/-- Every day lies in a week year, at most a year off its calendar year, and its week counts from
the start of that week year. -/
theorem exists_weekYear (n : Int) :
    ∃ year, (weeks.weekYearStart year ≤ n ∧ n < weeks.weekYearStart (year + 1)) ∧
      ((Date.ofDayNumber n).year - 1 ≤ year ∧ year ≤ (Date.ofDayNumber n).year + 1) ∧
      weeks.weekOfYear (Date.ofDayNumber n).year (Date.ofDayNumber n).dayOfYear (weekdayOf n) =
        ((n - weeks.weekYearStart year) / 7 + 1, year) := by
  have hd := (Date.ofDayNumber_isValid n).dayOfYear_mem
  have hn : n = Date.dayNumber ⟨(Date.ofDayNumber n).year, 1, (Date.ofDayNumber n).dayOfYear⟩ := by
    rw [Date.dayNumber_dayOfYear, Date.dayNumber_ofDayNumber]
  rw [weeks.weekOfYear_eq hn hd]
  generalize (Date.ofDayNumber n).year = year, (Date.ofDayNumber n).dayOfYear = day at *
  rw [dayNumber_add_day] at hn
  have hf := weeks.firstWeek_mem (Date.dayNumber ⟨year, 1, 1⟩)
  have hf' := weeks.firstWeek_mem (Date.dayNumber ⟨year + 1, 1, 1⟩)
  rw [← weekYearStart_eq_firstWeek] at hf hf'
  rw [dayNumber_next_year] at hf'
  by_cases h₁ : n < weeks.weekYearStart year
  · have hs := weeks.weekYearStart_succ (year - 1)
    rw [Int.sub_add_cancel] at hs
    refine ⟨year - 1, ⟨by omega, by rwa [Int.sub_add_cancel]⟩, by omega, ?_⟩
    rw [if_pos h₁]
  · rw [if_neg h₁]
    by_cases h₂ : n < weeks.weekYearStart (year + 1)
    · exact ⟨year, ⟨by omega, h₂⟩, by omega, by rw [if_pos h₂]⟩
    · have hs := weeks.weekYearStart_succ (year + 1)
      refine ⟨year + 1, by omega, by omega, ?_⟩
      have hweek : (n - weeks.weekYearStart (year + 1)) / 7 + 1 = 1 := by omega
      rw [if_neg h₂, hweek]

/-- **The week and the week year of a day are those of the week year that holds it.** Weeks are
numbered from `1` to at most `53`, and week years follow each other at 52 or 53 weeks. -/
theorem weekOfYear_weekYearStart (n : Int) :
    ∃ week weekYear, weeks.weekOfYear (Date.ofDayNumber n).year (Date.ofDayNumber n).dayOfYear
        (weekdayOf n) = (week, weekYear) ∧
      (∀ year, weeks.weekYearStart year ≤ n ∧ n < weeks.weekYearStart (year + 1) ↔
        year = weekYear) ∧
      week = (n - weeks.weekYearStart weekYear) / 7 + 1 ∧ (1 ≤ week ∧ week ≤ 53) ∧
      ∀ year, weeks.weekYearStart (year + 1) - weeks.weekYearStart year = 364 ∨
        weeks.weekYearStart (year + 1) - weeks.weekYearStart year = 371 := by
  obtain ⟨weekYear, hmem, -, heq⟩ := weeks.exists_weekYear n
  refine ⟨_, weekYear, heq, fun year => ⟨weeks.weekYear_unique hmem, ?_⟩, rfl, ?_,
    weeks.weekYearStart_succ⟩
  · rintro rfl
    exact hmem
  · have hs := weeks.weekYearStart_succ weekYear
    omega

end WeekNumbering

end Almanac
