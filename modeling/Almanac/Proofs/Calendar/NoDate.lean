import Mathlib
import Almanac.Proofs.Checked.Fields

/-!
# Fields without a date

Fields have no date if they speak of a leap month, if a field is too large, whether it is used or
not, if a counted weekday is not known, or if the year that the day is counted from is too large.
There is no other reason, neither in the zone nor in what is carried: numbers that have passed these
limits never leave the 64-bit integers.

* `DateFields.startYear`: the year that the day is counted from.
* `DateFields.dayNumberAt?_eq_none_iff`, `DateFields.not_withinLimits_iff`,
  `DateFields.daySelector?_eq_none_iff`: what fails, one by one.
* **`Calendar.date?_defined`**: when there is no date, and that no step overflows.
-/

namespace Almanac

theorem isYearSized_iff {year : ℤ} : IsYearSized year ↔ |year| ≤ largestYear := abs_le.symm

theorem dayNumber?_eq_none_iff {year month day : ℤ} :
    dayNumber? year month day = none ↔ ¬ IsYearSized (foldMonth year month).1 := by
  simp only [dayNumber?]
  split <;> simp [*]

namespace DateFields

variable (c : DateFields)

/-- The year that the day is counted from: that of the week, or the one that the month falls in. -/
def startYear : DaySelector → ℤ
  | .yearWeek _ => c.yearForWeekOfYear.getD c.fullYear
  | .monthDay _ | .monthWeek _ | .nthWeekday _ _ => (foldMonth c.fullYear (c.month.getD 1)).1

theorem dayNumberAt?_eq_none_iff (weeks : WeekNumbering) (selector : DaySelector) :
    c.dayNumberAt? weeks selector = none ↔ largestYear < |c.startYear selector| := by
  rw [← not_le, ← isYearSized_iff]
  cases selector with
  | monthDay day => exact dayNumber?_eq_none_iff
  | yearWeek week =>
    rw [dayNumberAt?, Option.map_eq_none_iff, dayNumber?_eq_none_iff,
      foldMonth_of_mem (by decide) (by decide)]
    rfl
  | monthWeek week => rw [dayNumberAt?, Option.map_eq_none_iff, dayNumber?_eq_none_iff, startYear]
  | nthWeekday n weekday =>
    have hmem := foldMonth_snd_mem c.fullYear (c.month.getD 1)
    simp only [dayNumberAt?]
    rw [Option.map_eq_none_iff, dayNumber?_eq_none_iff, foldMonth_of_mem hmem.1 hmem.2, startYear]

theorem not_withinLimits_iff :
    ¬ c.WithinLimits ↔ ∃ unit value, c.get unit = some value ∧ largestField < |value| := by
  simp only [WithinLimits, TimeUnit.mem_all, forall_const, Option.mem_def, IsFieldSized, ← abs_le,
    not_forall, not_le, exists_prop]

theorem daySelector?_eq_none_iff :
    c.daySelector? = none ↔ c.weekdayOrdinal.isSome ∧ c.day = none ∧ c.weekday = none := by
  unfold daySelector?
  split
  · next hday => simp [hday]
  · next hday hweekday => split <;> simp [hweekday]
  · next hday hweekday => simp [hday, hweekday, Option.isSome_iff_ne_none]

end DateFields

namespace Calendar

theorem date?_eq_none_iff (cal : Calendar) (c : DateFields) (resolution : Resolution) :
    cal.date? c resolution = none ↔ c.isLeapMonth = some true ∨
      (∃ unit value, c.get unit = some value ∧ largestField < |value|) ∨
      (c.weekdayOrdinal.isSome ∧ c.day = none ∧ c.weekday = none) ∨
      ∃ selector, c.daySelector? = some selector ∧ largestYear < |c.startYear selector| := by
  rw [← c.not_withinLimits_iff, ← c.daySelector?_eq_none_iff, date?]
  split
  · next hfields => exact iff_of_true rfl (hfields.imp_right Or.inl)
  · next hfields =>
    obtain ⟨hleap, hlimits⟩ := not_or.mp hfields
    rw [or_iff_right hleap, or_iff_right hlimits]
    cases hselector : c.daySelector? with
    | none => simp
    | some selector =>
      have hyear := c.dayNumberAt?_eq_none_iff cal.weeks selector
      simp only [reduceCtorEq, false_or, Option.some.injEq, exists_eq_left', ← hyear]
      cases hnumber : c.dayNumberAt? cal.weeks selector <;> simp [hnumber]

/-- **A date fails only for its fields, and no step to it overflows.** There is none for a leap
month, a field beyond the limit, a counted weekday that is not known, or a day that is counted from
a year beyond the limit. So whether there is one is the same in all zones, whichever offsets are
chosen. In 64-bit integers the date is found without an overflow, if offsets are less than a day. -/
theorem date?_defined (cal : Calendar) (c : DateFields) (resolution : Resolution) :
    (cal.date? c resolution = none ↔ c.isLeapMonth = some true ∨
      (∃ unit value, c.get unit = some value ∧ largestField < |value|) ∨
      (c.weekdayOrdinal.isSome ∧ c.day = none ∧ c.weekday = none) ∨
      ∃ selector, c.daySelector? = some selector ∧ largestYear < |c.startYear selector|) ∧
    (∀ (cal' : Calendar) (resolution' : Resolution),
      (cal'.date? c resolution').isSome = (cal.date? c resolution).isSome) ∧
    (cal.zone.source.WithinDay →
      Checked.date? cal c resolution = .value (cal.date? c resolution)) := by
  refine ⟨cal.date?_eq_none_iff c resolution, fun cal' resolution' => ?_,
    fun hday => Checked.date?_eq hday c resolution⟩
  rw [Bool.eq_iff_iff, Option.isSome_iff_ne_none, Option.isSome_iff_ne_none, ne_eq, ne_eq,
    cal.date?_eq_none_iff, cal'.date?_eq_none_iff]

/-- In Berlin, a weekday a million million weeks after the start of the last week year, with the
largest time fields, has a date. A year later has none, and neither has a leap month. -/
theorem date?_defined_largestFields :
    let cal : Calendar := ⟨⟨2, 4, by decide, by decide⟩, .region "Europe/Berlin" Region.berlin⟩
    let c : DateFields :=
      { yearForWeekOfYear := some 100000000, weekOfYear := some 1000000000000,
        weekday := some (-1000000000000), hour := some 1000000000000,
        minute := some 1000000000000, second := some 1000000000000,
        nanosecond := some (-1000000000000) }
    Checked.date? cal c {} = .value (cal.date? c {}) ∧ (cal.date? c {}).isSome ∧
      cal.date? { c with yearForWeekOfYear := some 100000001 } {} = none ∧
      cal.date? { c with isLeapMonth := some true } {} = none := by
  intro cal c
  have hday : cal.zone.source.WithinDay :=
    OffsetTable.withinDay_source (by decide +kernel : Region.berlin.WithinDay)
  obtain ⟨-, hsame, hchecked⟩ := cal.date?_defined c {}
  refine ⟨hchecked hday, ?_, ?_, ?_⟩
  · rw [← hsame standard {}]
    decide +kernel
  · refine (cal.date?_defined _ {}).1.mpr (.inr (.inr (.inr ⟨.yearWeek 1000000000000, rfl, ?_⟩)))
    decide
  · exact (cal.date?_defined _ {}).1.mpr (.inl rfl)

end Calendar

end Almanac
