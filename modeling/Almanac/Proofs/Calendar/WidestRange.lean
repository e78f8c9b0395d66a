import Mathlib
import Almanac.Proofs.Calendar.WeeksOfYear

/-!
# Common and widest ranges

The range of a unit inside a larger one holds the common values of the unit and lies in its widest
range, whichever instant it is taken at. Weeks of a month are the exception: a month whose first
days are too few to make a week has a week `0`, and the widest range begins with week `1`.

* `ValueRange.IsBetween`: a range holds the common values and a given one, and only allowed ones.
* `Calendar.isBetween_month`, `isBetween_weekYear`, `isBetween_year`: units that keep to the widest
  range.
* `Calendar.isBetween_weekOfMonth`: the weeks of a month, with week `0`.
* **`Calendar.range?_between`**: every range is between the two, but for week `0`.
* `Calendar.range?_weekOfMonth_zero`: a month with a week `0`.
-/

namespace Almanac

/-- The range holds the common values of the unit and the value `v`, and lies in `allowed`. -/
structure ValueRange.IsBetween (r : ValueRange) (unit : TimeUnit) (v : ℤ) (allowed : Set ℤ) :
    Prop where
  mem : v ∈ r.values
  common : (commonRange unit).values ⊆ r.values
  subset : r.values ⊆ allowed

theorem ValueRange.IsBetween.of_ends {r : ValueRange} {unit : TimeUnit} {v : ℤ}
    (hv : r.start ≤ v ∧ v < r.stop)
    (hstart : (widestRange unit).start ≤ r.start ∧ r.start ≤ (commonRange unit).start)
    (hstop : (commonRange unit).stop ≤ r.stop ∧ r.stop ≤ (widestRange unit).stop) :
    r.IsBetween unit v (widestRange unit).values :=
  ⟨hv, Set.Ico_subset_Ico hstart.2 hstop.1, Set.Ico_subset_Ico hstart.1 hstop.2⟩

namespace Calendar

variable (cal : Calendar) (t : Instant)

theorem isBetween_month {small : TimeUnit} (hsmall : small ∈ [.day, .weekdayOrdinal]) :
    ∃ r v, cal.range? small .month t = some r ∧ cal.component? small t = some v ∧
      r.IsBetween small v (widestRange small).values := by
  obtain ⟨index, hindex⟩ := cal.exists_month t
  have hday : _ ≤ (cal.localTime t).dayNumber ∧ (cal.localTime t).dayNumber < _ := hindex
  have hlength := monthLength_of_month hindex
  have hmem : 28 ≤ (cal.localTime t).monthLength ∧ (cal.localTime t).monthLength ≤ 31 :=
    monthLength_mem _ _
  fin_cases hsmall
  · refine ⟨⟨1, (cal.localTime t).monthLength + 1⟩, _, rfl, component?_day hindex,
      .of_ends ?_ ?_ ?_⟩ <;>
      dsimp only [commonRange, widestRange] <;> omega
  · refine ⟨⟨1, ((cal.localTime t).monthLength - 1) / 7 + 2⟩, _, rfl,
      component?_weekdayOrdinal hindex, .of_ends ?_ ?_ ?_⟩ <;>
      dsimp only [commonRange, widestRange] <;> omega

theorem isBetween_weekYear : ∃ r v, cal.range? .weekOfYear .yearForWeekOfYear t = some r ∧
    cal.component? .weekOfYear t = some v ∧
      r.IsBetween .weekOfYear v (widestRange .weekOfYear).values := by
  obtain ⟨weekYear, hmem, -⟩ := cal.exists_weekYear t
  have hweek := weekOfYear_of_weekYear hmem
  have hcount := cal.weeks.weekYearStart_add_weeksIn weekYear
  have hweeks := cal.weeks.weeksIn_eq weekYear
  have hday : _ ≤ (cal.localTime t).dayNumber ∧ (cal.localTime t).dayNumber < _ := hmem
  have hvalue : cal.component? .weekOfYear t =
      some (((cal.localTime t).dayNumber - cal.weeks.weekYearStart weekYear) / 7 + 1) := by
    rw [component?_eq, LocalTime.value, hweek]
  refine ⟨⟨1, cal.weeks.weeksIn weekYear + 1⟩, _, range?_weekOfYear_year hmem, hvalue,
    .of_ends ?_ ?_ ?_⟩ <;> dsimp only [commonRange, widestRange] <;> omega

theorem isBetween_year {small : TimeUnit} (hsmall : small ∈ [.month, .quarter]) :
    ∃ r v, cal.range? small .year t = some r ∧ cal.component? small t = some v ∧
      r.IsBetween small v (widestRange small).values := by
  obtain ⟨h₁, h₂⟩ : 1 ≤ (cal.localTime t).date.month ∧ (cal.localTime t).date.month ≤ 12 :=
    (Date.ofDayNumber_isValid (cal.localTime t).dayNumber).month_mem
  fin_cases hsmall
  · refine ⟨⟨1, 13⟩, (cal.localTime t).date.month, rfl, cal.component?_eq .month t,
      .of_ends ?_ ?_ ?_⟩ <;> dsimp only [commonRange, widestRange] <;> omega
  · refine ⟨⟨1, 5⟩, quarterOf (cal.localTime t).date.month, rfl, cal.component?_eq .quarter t,
      .of_ends ?_ ?_ ?_⟩ <;> dsimp only [commonRange, widestRange, quarterOf] <;> omega

/-- Weeks of a month, which begin with `0` if the days of the first week that are in the month are
fewer than a first week must have. -/
theorem isBetween_weekOfMonth {first : ℤ}
    (hfirst : first = (cal.localTime t).dayNumber - (cal.localTime t).date.day + 1) :
    ∃ r v, cal.range? .weekOfMonth .month t = some r ∧ cal.component? .weekOfMonth t = some v ∧
      r.IsBetween .weekOfMonth v (insert 0 (widestRange .weekOfMonth).values) ∧
      (0 ∈ r.values ↔ cal.weeks.startOfWeek first + 7 - first < cal.weeks.minimumDays) := by
  obtain ⟨index, hindex⟩ := cal.exists_month t
  rw [first_of_month hindex] at hfirst
  have hrange := range?_weekOfMonth hindex
  have hvalue := component?_weekOfMonth hindex
  have hlength := monthLength_of_month hindex
  have hmem : 28 ≤ (cal.localTime t).monthLength ∧ (cal.localTime t).monthLength ≤ 31 :=
    monthLength_mem _ _
  have hweek := cal.weeks.firstWeek_mem first
  have hshort : first < cal.weeks.firstWeek first ↔
      cal.weeks.startOfWeek first + 7 - first < cal.weeks.minimumDays := by
    have hplace := cal.weeks.placeOf_mem (weekdayOf first)
    rw [cal.weeks.firstWeek_eq, WeekNumbering.startOfWeek]
    omega
  have hday : _ ≤ (cal.localTime t).dayNumber ∧ (cal.localTime t).dayNumber < _ := hindex
  rw [← hfirst] at hrange hvalue hlength hday
  refine ⟨_, _, hrange, hvalue, ⟨?_, Set.Ico_subset_Ico ?_ ?_, ?_⟩, ?_⟩
  · rw [ValueRange.values, Set.mem_Ico]
    dsimp only
    omega
  · dsimp only [commonRange]
    omega
  · dsimp only [commonRange]
    omega
  · intro v hv
    simp only [ValueRange.values, Set.mem_Ico, Set.mem_insert_iff, widestRange] at hv ⊢
    omega
  · rw [← hshort, ValueRange.values, Set.mem_Ico]
    dsimp only
    omega

/-- **Ranges are between the common and the widest one, but for week `0`.** A range holds the value
at its own instant and all common values. It lies in the widest range, except that a month which
begins with too few days for a week has the week `0` as well. -/
theorem range?_between :
    (∀ small large, (small, large) ∈ [(.day, .month), (.weekdayOrdinal, .month),
        (.weekOfYear, .yearForWeekOfYear), (.month, .year), (.quarter, .year)] →
      ∃ r v, cal.range? small large t = some r ∧ cal.component? small t = some v ∧
        r.IsBetween small v (widestRange small).values) ∧
    ∃ first r v, first = (cal.localTime t).dayNumber - (cal.localTime t).date.day + 1 ∧
      cal.range? .weekOfMonth .month t = some r ∧ cal.component? .weekOfMonth t = some v ∧
      r.IsBetween .weekOfMonth v (insert 0 (widestRange .weekOfMonth).values) ∧
      (0 ∈ r.values ↔ cal.weeks.startOfWeek first + 7 - first < cal.weeks.minimumDays) := by
  constructor
  · intro small large h
    fin_cases h
    · exact cal.isBetween_month t (by decide)
    · exact cal.isBetween_month t (by decide)
    · exact cal.isBetween_weekYear t
    · exact cal.isBetween_year t (by decide)
    · exact cal.isBetween_year t (by decide)
  · obtain ⟨r, v, h⟩ := cal.isBetween_weekOfMonth t rfl
    exact ⟨_, r, v, rfl, h⟩

/-- With weeks from Monday and first weeks of at least four days, February 2021 has only the four
weeks that every month has. -/
theorem range?_between_wholeWeeks :
    let cal : Calendar := ⟨⟨2, 4, by decide, by decide⟩, .utc⟩
    cal.range? .weekOfMonth .month (.ofSeconds 1612137600) = some (commonRange .weekOfMonth) ∧
      (commonRange .weekOfMonth).IsBetween .weekOfMonth 1
        (insert 0 (widestRange .weekOfMonth).values) ∧
      ∃ v, cal.component? .day (.ofSeconds 1612137600) = some v ∧
        v ∈ (widestRange .day).values := by
  intro cal
  have hrange : cal.range? .weekOfMonth .month (.ofSeconds 1612137600) =
      some (commonRange .weekOfMonth) := by decide +kernel
  have hweek : cal.component? .weekOfMonth (.ofSeconds 1612137600) = some 1 := by decide +kernel
  obtain ⟨hunits, first, r, v, -, hr, hv, hbetween, -⟩ := cal.range?_between (.ofSeconds 1612137600)
  obtain rfl := Option.some.inj (hr.symm.trans hrange)
  obtain rfl := Option.some.inj (hv.symm.trans hweek)
  obtain ⟨days, day, -, hday, hdays⟩ := hunits .day .month (by decide)
  exact ⟨hrange, hbetween, day, hday, hdays.subset hdays.mem⟩

/-- January 2021 begins with a Friday. With weeks from Monday and first weeks of at least four days,
its first three days are too few for a week and have the week `0`. -/
theorem range?_weekOfMonth_zero :
    let cal : Calendar := ⟨⟨2, 4, by decide, by decide⟩, .utc⟩
    cal.range? .weekOfMonth .month (.ofSeconds 1609466400) = some ⟨0, 5⟩ ∧
      cal.component? .weekOfMonth (.ofSeconds 1609466400) = some 0 ∧
      (0 : ℤ) ∈ (⟨0, 5⟩ : ValueRange).values ∧ (0 : ℤ) ∉ (widestRange .weekOfMonth).values := by
  refine ⟨by decide +kernel, by decide +kernel, ⟨by decide, by decide⟩, ?_⟩
  rintro ⟨h, -⟩
  exact absurd h (by decide)

end Calendar

end Almanac
