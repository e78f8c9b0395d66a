import Mathlib
import Almanac.Proofs.Calendar.NoDate
import Almanac.Proofs.Checked.Moves

/-!
# Amounts that lead nowhere

A move of an instant fails if the amount is too large, or if it leads to a year that is too large.
There is no other reason. Only moves by years, quarters and months and those to a numbered week of a
year ask for their year; days and times of day are moved without.

* `LocalTime.targetYear?`: the year that a move asks for.
* `Calendar.carry?_eq_none_iff`, `Calendar.cycle?_eq_none_iff`: when a move fails, in both ways.
* **`Calendar.add?_defined`**: when an amount cannot be added, and that no step overflows.
-/

namespace Almanac

/-- The year that a move asks for: the one that its month falls in, or that its week is counted
in. -/
def LocalTime.targetYear? (l : LocalTime) (weeks : WeekNumbering) (unit : TimeUnit) (amount : ℤ)
    (wrap : Bool) : Option ℤ :=
  match unit, wrap with
  | .year, false => some (l.date.year + amount)
  | .year, true => some (l.cycledYear amount)
  | .quarter, false => some (foldMonth l.date.year (l.date.month + 3 * amount)).1
  | .month, false => some (foldMonth l.date.year (l.date.month + amount)).1
  | .quarter, true | .month, true => some l.date.year
  | .yearForWeekOfYear, _ => some ((l.weekOfYear weeks).2 + amount)
  | .weekOfYear, true => some (l.weekOfYear weeks).2
  | _, _ => none

namespace Calendar

variable {cal : Calendar} {l : LocalTime} {unit : TimeUnit} {amount year month : ℤ} {t : Instant}

theorem localTime_date_isValid (cal : Calendar) (t : Instant) : (cal.localTime t).date.IsValid :=
  Date.ofDayNumber_isValid _

theorem moveToMonth?_eq_none_iff : cal.moveToMonth? l year month = none ↔
    largestYear < |(foldMonth year month).1| := by
  have hfold := foldMonth_snd_mem year month
  rw [← not_le, ← isYearSized_iff]
  simp only [moveToMonth?]
  split
  · next hyear =>
    rw [Option.map_eq_none_iff, dayNumber?_eq_none_iff, foldMonth_of_mem hfold.1 hfold.2]
  · next hyear => exact iff_of_true rfl hyear

theorem weekYear_eq_none_iff {β : Type} {f : ℤ → β} :
    (dayNumber? year 1 1).map f = none ↔ largestYear < |year| := by
  rw [Option.map_eq_none_iff, dayNumber?_eq_none_iff, foldMonth_of_mem (by decide) (by decide),
    isYearSized_iff, not_le]

theorem carry?_eq_none_iff : cal.carry? unit amount t = none ↔
    ∃ year, (cal.localTime t).targetYear? cal.weeks unit amount false = some year ∧
      largestYear < |year| := by
  have hmonth := (cal.localTime_date_isValid t).month_mem
  cases unit with
  | year =>
    rw [carry?, moveToMonth?_eq_none_iff, foldMonth_of_mem hmonth.1 hmonth.2]
    simp only [LocalTime.targetYear?, Option.some.injEq, exists_eq_left']
  | quarter | month =>
    rw [carry?, moveToMonth?_eq_none_iff]
    simp only [LocalTime.targetYear?, Option.some.injEq, exists_eq_left']
  | yearForWeekOfYear =>
    simp only [carry?, weekYear_eq_none_iff, LocalTime.targetYear?, Option.some.injEq,
      exists_eq_left']
  | _ => exact iff_of_false (Option.some_ne_none _) (by rintro ⟨_, ⟨⟩, _⟩)

theorem cycle?_eq_none_iff : cal.cycle? unit amount t = none ↔
    ∃ year, (cal.localTime t).targetYear? cal.weeks unit amount true = some year ∧
      largestYear < |year| := by
  have hmonth := (cal.localTime_date_isValid t).month_mem
  cases unit with
  | year =>
    rw [cycle?_year, moveToMonth?_eq_none_iff, foldMonth_of_mem hmonth.1 hmonth.2]
    simp only [LocalTime.targetYear?, Option.some.injEq, exists_eq_left']
  | quarter | month =>
    rw [cycle?, moveToMonth?_eq_none_iff, foldMonth_of_mem (by omega) (by omega)]
    simp only [LocalTime.targetYear?, Option.some.injEq, exists_eq_left']
  | yearForWeekOfYear =>
    change cal.carry? .yearForWeekOfYear amount t = none ↔ _
    exact carry?_eq_none_iff
  | weekOfYear =>
    simp only [cycle?, weekYear_eq_none_iff, LocalTime.targetYear?, Option.some.injEq,
      exists_eq_left']
  | _ => exact iff_of_false (Option.some_ne_none _) (by rintro ⟨_, ⟨⟩, _⟩)

/-- **An amount cannot be added only if it or the year that it leads to is too large.** No step to
the result overflows, has a divisor that is zero or holds a day to a month without days, if offsets
are less than a day. -/
theorem add?_defined (hday : cal.zone.source.WithinDay) {n : ℤ} (hn : n.natAbs ≤ 2 ^ 53)
    (unit : TimeUnit) (amount : ℤ) (wrap : Bool) :
    Checked.add? cal unit amount (.ofSeconds n) wrap =
      .value (cal.add? unit amount (.ofSeconds n) wrap) ∧
    (cal.add? unit amount (.ofSeconds n) wrap = none ↔ amount ≠ 0 ∧ (largestField < |amount| ∨
      ∃ year, (cal.localTime (.ofSeconds n)).targetYear? cal.weeks unit amount wrap = some year ∧
        largestYear < |year|)) := by
  refine ⟨Checked.add?_eq hday hn unit amount wrap, ?_⟩
  generalize Instant.ofSeconds n = t
  have hsized : IsFieldSized amount ↔ ¬ largestField < |amount| := abs_le.symm.trans not_lt.symm
  rw [add?]
  split
  · next hzero => exact iff_of_false (Option.some_ne_none _) fun h => h.1 hzero
  next hamount =>
  rw [and_iff_right hamount]
  split
  · next hsmall =>
    rw [or_iff_right (hsized.mp hsmall)]
    cases wrap with
    | false => exact carry?_eq_none_iff
    | true => exact cycle?_eq_none_iff
  · next hlarge => exact iff_of_true rfl (Or.inl (not_not.mp (mt hsized.mpr hlarge)))

/-- In Berlin, the last exact second is in a year beyond the limit. A million million weeks can still
be added to it, without an overflow. A week further in its year would have to be looked up in it. -/
theorem add?_defined_lastSecond :
    let cal : Calendar := ⟨⟨2, 4, by decide, by decide⟩, .region "Europe/Berlin" Region.berlin⟩
    let t := Instant.ofSeconds 9007199254740992
    Checked.add? cal .weekOfYear 1000000000000 t false =
        .value (cal.add? .weekOfYear 1000000000000 t false) ∧
      cal.add? .weekOfYear 1000000000000 t false ≠ none ∧
      Checked.add? cal .weekOfYear 1 t true = .value none := by
  intro cal t
  have hday : cal.zone.source.WithinDay :=
    OffsetTable.withinDay_source (by decide +kernel : Region.berlin.WithinDay)
  have hn : (9007199254740992 : ℤ).natAbs ≤ 2 ^ 53 := by decide
  obtain ⟨hchecked, hnone⟩ := add?_defined hday hn .weekOfYear 1000000000000 false
  obtain ⟨hchecked', hnone'⟩ := add?_defined hday hn .weekOfYear 1 true
  have hyear : (cal.localTime t).targetYear? cal.weeks .weekOfYear 1 true = some 285428751 := by
    decide +kernel
  refine ⟨hchecked, fun h => ?_, hchecked'.trans (congrArg _ ?_)⟩
  · obtain ⟨-, hlarge | ⟨_, ⟨⟩, -⟩⟩ := hnone.mp h
    exact absurd hlarge (by decide)
  · exact hnone'.mpr ⟨by decide, Or.inr ⟨_, hyear, by decide⟩⟩

end Calendar

end Almanac
