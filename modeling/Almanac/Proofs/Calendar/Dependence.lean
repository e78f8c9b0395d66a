import Mathlib
import Almanac.Calendar.Fields

/-!
# What a date depends on

A record may hold more fields than a date needs. Which fields pin the day is decided in a fixed
order, and the others are ignored, whatever they are: two records that pin the day alike and agree
on the time of day have the same date.

* `DateFields.SameClock`: two records agree on the time of day.
* `DateFields.PinnedAlike`: two records pin the day in the same way, by the same fields.
* `PinnedAlike.exists_selector`: they choose the same selector, and it pins the same day.
* **`Calendar.date?_eq_of_pinnedAlike`**: fields that do not take part are ignored.
-/

namespace Almanac

namespace DateFields

/-- Two records agree on the time of day. -/
structure SameClock (c d : DateFields) : Prop where
  hour : c.hour = d.hour
  minute : c.minute = d.minute
  second : c.second = d.second
  nanosecond : c.nanosecond = d.nanosecond

/-- Two records agree on the month and on the year that holds it. -/
structure SameMonth (c d : DateFields) : Prop where
  era : c.era = d.era
  year : c.year = d.year
  month : c.month = d.month

/-- Two records pin the day in the same way. Each way names the fields that take part, and those
that must be absent for a later way to be looked at; nothing is said about the others. -/
inductive PinnedAlike (c d : DateFields) : Prop where
  /-- By a day of the month. -/
  | monthDay {day : ℤ} (hc : c.day = some day) (hd : d.day = some day) (month : SameMonth c d)
  /-- By a weekday in a week of the year. Era and year count only without a week year. -/
  | yearWeek {weekday week : ℤ} (hday : c.day = none ∧ d.day = none)
      (hweekday : c.weekday = some weekday ∧ d.weekday = some weekday)
      (hweek : c.weekOfYear = some week ∧ d.weekOfYear = some week)
      (weekYear : c.yearForWeekOfYear = d.yearForWeekOfYear)
      (year : c.yearForWeekOfYear = none → c.era = d.era ∧ c.year = d.year)
  /-- By a weekday in a week of the month. -/
  | monthWeek {weekday week : ℤ} (hday : c.day = none ∧ d.day = none)
      (hyearWeek : c.weekOfYear = none ∧ d.weekOfYear = none)
      (hweekday : c.weekday = some weekday ∧ d.weekday = some weekday)
      (hweek : c.weekOfMonth = some week ∧ d.weekOfMonth = some week) (month : SameMonth c d)
  /-- By a weekday that is counted in the month. -/
  | nthWeekday {weekday n : ℤ} (hday : c.day = none ∧ d.day = none)
      (hyearWeek : c.weekOfYear = none ∧ d.weekOfYear = none)
      (hmonthWeek : c.weekOfMonth = none ∧ d.weekOfMonth = none)
      (hweekday : c.weekday = some weekday ∧ d.weekday = some weekday)
      (hn : c.weekdayOrdinal = some n ∧ d.weekdayOrdinal = some n) (month : SameMonth c d)
  /-- By a week of a week year, from its first day. -/
  | weekYear {week year : ℤ} (hday : c.day = none ∧ d.day = none)
      (hweekday : c.weekday = none ∧ d.weekday = none)
      (hn : c.weekdayOrdinal = none ∧ d.weekdayOrdinal = none)
      (hweek : c.weekOfYear = some week ∧ d.weekOfYear = some week)
      (hyear : c.yearForWeekOfYear = some year ∧ d.yearForWeekOfYear = some year)

variable {c d : DateFields}

theorem SameClock.secondOfDay (h : SameClock c d) : c.secondOfDay = d.secondOfDay := by
  rw [DateFields.secondOfDay, DateFields.secondOfDay, h.hour, h.minute, h.second]

theorem fullYear_congr (hera : c.era = d.era) (hyear : c.year = d.year) :
    c.fullYear = d.fullYear := by
  rw [fullYear, fullYear, hera, hyear]

theorem SameMonth.fullYear (h : SameMonth c d) : c.fullYear = d.fullYear :=
  fullYear_congr h.era h.year

theorem PinnedAlike.exists_selector (h : PinnedAlike c d) (weeks : WeekNumbering) :
    ∃ selector, c.daySelector? = some selector ∧ d.daySelector? = some selector ∧
      c.dayNumberAt? weeks selector = d.dayNumberAt? weeks selector := by
  cases h with
  | @monthDay day hc hd month =>
    refine ⟨.monthDay day, ?_, ?_, ?_⟩
    · simp [daySelector?, hc]
    · simp [daySelector?, hd]
    · simp only [dayNumberAt?, month.fullYear, month.month]
  | @yearWeek weekday week hday hweekday hweek weekYear year =>
    refine ⟨.yearWeek week, ?_, ?_, ?_⟩
    · simp [daySelector?, hday, hweekday, hweek]
    · simp [daySelector?, hday, hweekday, hweek]
    · have hyear : c.yearForWeekOfYear.getD c.fullYear = d.yearForWeekOfYear.getD d.fullYear := by
        rw [← weekYear]
        cases hy : c.yearForWeekOfYear with
        | none => exact fullYear_congr (year hy).1 (year hy).2
        | some y => rfl
      simp only [dayNumberAt?, hyear, hweekday]
  | @monthWeek weekday week hday hyearWeek hweekday hweek month =>
    refine ⟨.monthWeek week, ?_, ?_, ?_⟩
    · simp [daySelector?, hday, hyearWeek, hweekday, hweek]
    · simp [daySelector?, hday, hyearWeek, hweekday, hweek]
    · simp only [dayNumberAt?, month.fullYear, month.month, hweekday]
  | @nthWeekday weekday n hday hyearWeek hmonthWeek hweekday hn month =>
    refine ⟨.nthWeekday n weekday, ?_, ?_, ?_⟩
    · simp [daySelector?, hday, hyearWeek, hmonthWeek, hweekday, hn]
    · simp [daySelector?, hday, hyearWeek, hmonthWeek, hweekday, hn]
    · simp only [dayNumberAt?, month.fullYear, month.month]
  | @weekYear week year hday hweekday hn hweek hyear =>
    refine ⟨.yearWeek week, ?_, ?_, ?_⟩
    · simp [daySelector?, defaultSelector, hday, hweekday, hn, hweek, hyear]
    · simp [daySelector?, defaultSelector, hday, hweekday, hn, hweek, hyear]
    · simp only [dayNumberAt?, hyear, hweekday, Option.getD_some]

end DateFields

namespace Calendar

variable (cal : Calendar) {c d : DateFields}

/-- **Fields that do not take part in a date are ignored.** Records within the limits that pin the
day alike and agree on the time of day have the same date, or both have none because their year is
too large. -/
theorem date?_eq_of_pinnedAlike (hc : c.isLeapMonth ≠ some true) (hd : d.isLeapMonth ≠ some true)
    (hlimits : c.WithinLimits) (hlimits' : d.WithinLimits) (hclock : c.SameClock d)
    (h : c.PinnedAlike d) (resolution : Resolution) :
    cal.date? c resolution = cal.date? d resolution := by
  obtain ⟨selector, hselector, hselector', hday⟩ := h.exists_selector cal.weeks
  have hallowed : ¬ (c.isLeapMonth = some true ∨ ¬ c.WithinLimits) :=
    not_or.mpr ⟨hc, not_not.mpr hlimits⟩
  have hallowed' : ¬ (d.isLeapMonth = some true ∨ ¬ d.WithinLimits) :=
    not_or.mpr ⟨hd, not_not.mpr hlimits'⟩
  rw [date?, date?, if_neg hallowed, if_neg hallowed', hselector, hselector']
  simp only [Option.bind_eq_bind, Option.bind_some, hday, hclock.secondOfDay, hclock.nanosecond]

/-- The Monday of week 9 of 2024 at noon is not moved by a month, a count of weekdays, a week of
the month and a quarter that all say otherwise. -/
theorem date?_eq_of_pinnedAlike_overdetermined :
    let c : DateFields := { year := some 2024, weekOfYear := some 9, weekday := some 2,
                            hour := some 12 }
    let d : DateFields := { c with
      month := some 7, weekdayOrdinal := some (-1), weekOfMonth := some 3, quarter := some 99,
      isLeapMonth := some false }
    standard.date? c {} = some (.ofSeconds 1708948800) ∧
      standard.date? d {} = some (.ofSeconds 1708948800) := by
  intro c d
  have hdate : standard.date? c {} = some (.ofSeconds 1708948800) := by decide +kernel
  have hpinned : c.PinnedAlike d := .yearWeek (by decide) ⟨rfl, rfl⟩ ⟨rfl, rfl⟩ rfl (by decide)
  have hsame := standard.date?_eq_of_pinnedAlike (c := c) (d := d) (by decide) (by decide)
    (by decide) (by decide) ⟨rfl, rfl, rfl, rfl⟩ hpinned {}
  exact ⟨hdate, hsame.symm.trans hdate⟩

end Calendar

end Almanac
