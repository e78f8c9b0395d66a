import Mathlib
import Almanac.Proofs.Calendar.YearLimit
import Almanac.Proofs.Calendar.MonthSteps

/-!
# Fields that carry

The fields of a record that pins a day of a month are digits of a mixed radix: so many of a unit are
one of the next larger. The day is counted from the first of a month that is itself counted through
all years, and the time of day is added to it. A date only depends on what the digits add up to.

* `DateFields.monthIndex`: the month that the day is counted in.
* `Calendar.date?_monthDay`: the date, by the month, the day and the time of day.
* `Calendar.date?_congr`: records that add up to the same reading have the same date.
* `DateFields.plus` and `TimeUnit.carries`: a field that is moved, and how many carry.
* **`Calendar.date?_carries`**: so many of a unit are one of the next larger, in both directions.
-/

namespace Almanac

theorem dayNumber?_eq_monthStart (year month day : ℤ) : dayNumber? year month day =
    if IsYearSized ((12 * year + month - 1) / 12) then
      some (monthStart (12 * year + month - 1) + (day - 1))
    else none := by
  have hmonth := foldMonth_snd_mem year month
  have hcount := foldMonth_count year month
  have hfirst := dayNumber_eq_first hmonth
    (show 12 * (foldMonth year month).1 + (foldMonth year month).2 - 1 = 12 * year + month - 1 by
      omega)
  have hyear : (foldMonth year month).1 = (12 * year + month - 1) / 12 := by omega
  simp only [dayNumber?]
  rw [dayNumber_add_day, hfirst, hyear]

namespace DateFields

/-- The month that days are counted in, where January of year `0` is month `0`. -/
def monthIndex (c : DateFields) : ℤ := 12 * c.fullYear + c.month.getD 1 - 1

theorem foldMonth_eq_monthIndex (c : DateFields) :
    foldMonth c.fullYear (c.month.getD 1) = (c.monthIndex / 12, c.monthIndex % 12 + 1) := by
  simp only [foldMonth, monthIndex, Prod.mk.injEq]
  omega

end DateFields

namespace Calendar

variable (cal : Calendar)

/-! ## Readings -/

theorem instantOf_congr {n second nanos n' second' nanos' : ℤ}
    (hreading : n' * secondsPerDay + second' + nanos' / nanosPerSecond =
      n * secondsPerDay + second + nanos / nanosPerSecond)
    (hnanos : nanos' % nanosPerSecond = nanos % nanosPerSecond) (resolution : Resolution) :
    cal.instantOf n' second' nanos' resolution = cal.instantOf n second nanos resolution := by
  simp only [instantOf, hreading, hnanos]

variable {c c' : DateFields} {day day' : ℤ}

theorem date?_monthDay (hselector : c.daySelector? = some (.monthDay day))
    (hlimits : c.WithinLimits) (resolution : Resolution) : cal.date? c resolution =
      if c.isLeapMonth ≠ some true ∧ IsYearSized (c.monthIndex / 12) then
        some (cal.instantOf (monthStart c.monthIndex + (day - 1)) c.secondOfDay
          (c.nanosecond.getD 0) resolution)
      else none := by
  by_cases hleap : c.isLeapMonth = some true
  · rw [date?, if_pos (.inl hleap), if_neg (fun h => h.1 hleap)]
  · rw [date?, if_neg (not_or.mpr ⟨hleap, not_not.mpr hlimits⟩), hselector]
    simp only [DateFields.dayNumberAt?, dayNumber?_eq_monthStart, DateFields.monthIndex]
    split <;> simp_all

/-- Records that add up to the same reading have the same date. -/
theorem date?_congr (c c' : DateFields) (hleap : c'.isLeapMonth = c.isLeapMonth)
    (hselector : c.daySelector? = some (.monthDay day))
    (hselector' : c'.daySelector? = some (.monthDay day'))
    (hlimits : c.WithinLimits) (hlimits' : c'.WithinLimits)
    (hyear : IsYearSized (c'.monthIndex / 12) ↔ IsYearSized (c.monthIndex / 12))
    (hreading : (monthStart c'.monthIndex + (day' - 1)) * secondsPerDay + c'.clockSeconds =
      (monthStart c.monthIndex + (day - 1)) * secondsPerDay + c.clockSeconds)
    (hnanos : c'.nanosecond.getD 0 % nanosPerSecond = c.nanosecond.getD 0 % nanosPerSecond)
    (resolution : Resolution) : cal.date? c' resolution = cal.date? c resolution := by
  simp only [DateFields.clockSeconds, ← add_assoc] at hreading
  rw [cal.date?_monthDay hselector hlimits, cal.date?_monthDay hselector' hlimits', hleap,
    cal.instantOf_congr hreading hnanos]
  simp only [hyear]

end Calendar

/-! ## Moved fields -/

/-- What an absent field stands for. -/
def TimeUnit.absentValue : TimeUnit → ℤ
  | .hour | .minute | .second | .nanosecond => 0
  | _ => 1

/-- So many of a unit are one of the larger unit. -/
def TimeUnit.carries : List (TimeUnit × ℤ × TimeUnit) :=
  [(.month, 12, .year), (.hour, 24, .day), (.minute, 60, .hour), (.second, 60, .minute),
    (.nanosecond, nanosPerSecond, .second)]

namespace DateFields

/-- The record with one field moved. -/
def plus (c : DateFields) (unit : TimeUnit) (k : ℤ) : DateFields :=
  c.set unit (some ((c.get unit).getD unit.absentValue + k))

variable {c : DateFields} {day : ℤ} (k : ℤ)

theorem monthIndex_plus_year (hera : 0 < c.era.getD 1) :
    (c.plus .year k).monthIndex = c.monthIndex + 12 * k := by
  have hlater : ¬ c.era.getD 1 ≤ 0 := by omega
  have hyear : (c.plus .year k).fullYear = c.fullYear + k := by
    change astronomicalYear (c.era.getD 1) (c.year.getD 1 + k) =
      astronomicalYear (c.era.getD 1) (c.year.getD 1) + k
    rw [astronomicalYear, astronomicalYear, if_neg hlater, if_neg hlater]
  have hmonth : (c.plus .year k).month = c.month := rfl
  rw [monthIndex, monthIndex, hyear, hmonth]
  ring

theorem monthIndex_plus_month : (c.plus .month k).monthIndex = c.monthIndex + k := by
  simp only [monthIndex, fullYear, plus, set, get, TimeUnit.absentValue, Option.getD_some]
  ring

theorem clockSeconds_plus (c : DateFields) (k : ℤ) :
    (c.plus .hour k).clockSeconds = c.clockSeconds + 3600 * k ∧
      (c.plus .minute k).clockSeconds = c.clockSeconds + 60 * k ∧
      (c.plus .second k).clockSeconds = c.clockSeconds + k ∧
      (c.plus .nanosecond (nanosPerSecond * k)).clockSeconds = c.clockSeconds + k := by
  have hnanos : (c.nanosecond.getD 0 + nanosPerSecond * k) / nanosPerSecond =
      c.nanosecond.getD 0 / nanosPerSecond + k := Int.add_mul_ediv_left _ _ (by decide)
  simp only [clockSeconds, secondOfDay, plus, set, get, TimeUnit.absentValue, Option.getD_some,
    hnanos]
  refine ⟨?_, ?_, ?_, ?_⟩ <;> ring

theorem defaultSelector_eq_monthDay_iff : c.defaultSelector = .monthDay day ↔
    day = 1 ∧ ¬ (c.yearForWeekOfYear.isSome ∧ (c.weekOfYear.isSome ∨ c.year = none)) := by
  unfold defaultSelector
  split
  · next h => exact ⟨nofun, fun h' => absurd h h'.2⟩
  · next h => exact ⟨fun h' => ⟨(DaySelector.monthDay.inj h').symm, h⟩, fun h' => h'.1 ▸ rfl⟩

/-- A day of the month is pinned by a day, or by default where nothing else pins one. -/
theorem daySelector?_eq_monthDay_iff : c.daySelector? = some (.monthDay day) ↔
    c.day = some day ∨ c.day = none ∧ c.weekdayOrdinal = none ∧
      (c.weekday = none ∨ c.weekOfYear = none ∧ c.weekOfMonth = none) ∧
        c.defaultSelector = .monthDay day := by
  unfold daySelector?
  split
  · next hday => simp [hday]
  · next hday hweekday => split <;> simp_all
  · next hday hweekday => simp [hday, hweekday, Option.isSome_iff_ne_none]

theorem daySelector?_plus_day (h : c.daySelector? = some (.monthDay day)) :
    (c.plus .day k).daySelector? = some (.monthDay (day + k)) := by
  have hday : c.day.getD 1 = day := by
    obtain hday | ⟨hday, -, -, hdefault⟩ := daySelector?_eq_monthDay_iff.mp h
    · rw [hday, Option.getD_some]
    · rw [hday, (defaultSelector_eq_monthDay_iff.mp hdefault).1, Option.getD_none]
  rw [← hday]
  rfl

theorem daySelector?_plus (h : c.daySelector? = some (.monthDay day)) {unit : TimeUnit}
    (hunit : unit ∈ [.year, .month, .hour, .minute, .second, .nanosecond]) :
    (c.plus unit k).daySelector? = some (.monthDay day) := by
  obtain rfl | hunit := List.mem_cons.mp hunit
  · -- a year that is given can only take the default away from a week year
    rw [daySelector?_eq_monthDay_iff, defaultSelector_eq_monthDay_iff] at h ⊢
    exact h.imp_right fun ⟨h₁, h₂, h₃, h₄, hweek⟩ =>
      ⟨h₁, h₂, h₃, h₄, fun h' => hweek ⟨h'.1, h'.2.imp_right nofun⟩⟩
  · fin_cases hunit <;> exact h

end DateFields

/-! ## Carries -/

namespace Calendar

section MonthDay

variable (cal : Calendar) {c : DateFields} {day : ℤ}
  (hselector : c.daySelector? = some (.monthDay day)) (resolution : Resolution)
include hselector

/-- So many of a unit are one of the larger unit. -/
theorem date?_plus_carries {small large : TimeUnit} {count : ℤ}
    (hcarries : (small, count, large) ∈ TimeUnit.carries) (hera : small = .month → 0 < c.era.getD 1)
    {k : ℤ} (hsmall : (c.plus small (count * k)).WithinLimits)
    (hlarge : (c.plus large k).WithinLimits) :
    cal.date? (c.plus small (count * k)) resolution = cal.date? (c.plus large k) resolution := by
  have hclock := c.clockSeconds_plus
  have hselect (unit : TimeUnit) (k : ℤ)
      (hunit : unit ∈ [.year, .month, .hour, .minute, .second, .nanosecond]) :=
    DateFields.daySelector?_plus k hselector hunit
  fin_cases hcarries
  · have hindex : (c.plus .month (12 * k)).monthIndex = (c.plus .year k).monthIndex := by
      rw [DateFields.monthIndex_plus_month, DateFields.monthIndex_plus_year k (hera rfl)]
    refine cal.date?_congr (c.plus .year k) (c.plus .month (12 * k)) rfl (hselect _ k (by decide))
      (hselect _ _ (by decide)) hlarge hsmall (by rw [hindex]) ?_ rfl resolution
    rw [hindex]
    rfl
  · refine cal.date?_congr (c.plus .day k) (c.plus .hour (24 * k)) rfl
      (DateFields.daySelector?_plus_day k hselector) (hselect _ _ (by decide)) hlarge hsmall .rfl ?_
      rfl resolution
    rw [(hclock _).1]
    change (monthStart c.monthIndex + (day - 1)) * 86400 + (c.clockSeconds + 3600 * (24 * k)) =
      (monthStart c.monthIndex + (day + k - 1)) * 86400 + c.clockSeconds
    ring
  · refine cal.date?_congr (c.plus .hour k) (c.plus .minute (60 * k)) rfl (hselect _ k (by decide))
      (hselect _ _ (by decide)) hlarge hsmall .rfl ?_ rfl resolution
    rw [(hclock _).1, (hclock _).2.1]
    change (monthStart c.monthIndex + (day - 1)) * 86400 + (c.clockSeconds + 60 * (60 * k)) =
      (monthStart c.monthIndex + (day - 1)) * 86400 + (c.clockSeconds + 3600 * k)
    ring
  · refine cal.date?_congr (c.plus .minute k) (c.plus .second (60 * k)) rfl
      (hselect _ k (by decide)) (hselect _ _ (by decide)) hlarge hsmall .rfl ?_ rfl resolution
    rw [(hclock _).2.1, (hclock _).2.2.1]
    rfl
  · refine cal.date?_congr (c.plus .second k) (c.plus .nanosecond (nanosPerSecond * k)) rfl
      (hselect _ k (by decide)) (hselect _ _ (by decide)) hlarge hsmall .rfl ?_ ?_ resolution
    · rw [(hclock _).2.2.1, (hclock _).2.2.2]
      rfl
    · exact Int.add_mul_emod_self_left _ _ _

theorem date?_plus_months {k : ℤ} (hyear : IsYearSized (c.monthIndex / 12))
    (hyear' : IsYearSized ((c.monthIndex + k) / 12))
    (hdays : (c.plus .day (monthStart (c.monthIndex + k) - monthStart c.monthIndex)).WithinLimits)
    (hmonths : (c.plus .month k).WithinLimits) :
    cal.date? (c.plus .day (monthStart (c.monthIndex + k) - monthStart c.monthIndex)) resolution =
      cal.date? (c.plus .month k) resolution := by
  have hindex := c.monthIndex_plus_month k
  refine cal.date?_congr (c.plus .month k) (c.plus .day _) rfl
    (DateFields.daySelector?_plus k hselector (by decide))
    (DateFields.daySelector?_plus_day _ hselector) hmonths hdays ?_ ?_ rfl resolution
  · rw [hindex]
    exact iff_of_true hyear hyear'
  · rw [hindex]
    change (monthStart c.monthIndex +
      (day + (monthStart (c.monthIndex + k) - monthStart c.monthIndex) - 1)) * 86400 +
        c.clockSeconds = (monthStart (c.monthIndex + k) + (day - 1)) * 86400 + c.clockSeconds
    ring

/-- **Fields carry into the next larger one, and months into each other by their days.** For a
record that pins a day of a month, in any zone and by any resolution, it makes no difference whether
twelve months or a year are added, a day's hours or a day, and so on down, or as many less; nor
whether a month or the days of this one are added, or a month or the days of the last one are taken
away. Its date is read from the day that is counted from the first of the month. -/
theorem date?_carries {year month : ℤ}
    (hmonth : foldMonth c.fullYear (c.month.getD 1) = (year, month)) :
    (∀ small count large, (small, count, large) ∈ TimeUnit.carries →
      (small = .month → 0 < c.era.getD 1) → ∀ k, (c.plus small (count * k)).WithinLimits →
        (c.plus large k).WithinLimits →
          cal.date? (c.plus small (count * k)) resolution = cal.date? (c.plus large k) resolution) ∧
    (IsYearSized year →
      (IsYearSized (foldMonth year (month + 1)).1 →
        (c.plus .day (monthLength year month)).WithinLimits → (c.plus .month 1).WithinLimits →
          cal.date? (c.plus .day (monthLength year month)) resolution =
            cal.date? (c.plus .month 1) resolution) ∧
      (∀ year' month', foldMonth year (month - 1) = (year', month') → IsYearSized year' →
        (c.plus .day (-monthLength year' month')).WithinLimits → (c.plus .month (-1)).WithinLimits →
          cal.date? (c.plus .day (-monthLength year' month')) resolution =
            cal.date? (c.plus .month (-1)) resolution) ∧
      (c.isLeapMonth ≠ some true → c.WithinLimits →
        cal.date? c resolution = some (cal.instantOf
          (Date.dayNumber ⟨year, month, 1⟩ + (day - 1)) c.secondOfDay (c.nanosecond.getD 0)
            resolution))) := by
  refine ⟨fun small count large hcarries hera k =>
    cal.date?_plus_carries hselector resolution hcarries hera, fun hyear => ?_⟩
  rw [c.foldMonth_eq_monthIndex, Prod.mk.injEq] at hmonth
  obtain ⟨rfl, rfl⟩ := hmonth
  have hstep := fun k => cal.date?_plus_months hselector resolution (k := k) hyear
  refine ⟨fun hnext hdays hmonths => ?_, ?_, fun hleap hlimits => ?_⟩
  · have hlength : monthStart (c.monthIndex + 1) - monthStart c.monthIndex =
        monthLength (c.monthIndex / 12) (c.monthIndex % 12 + 1) := by
      rw [monthStart_succ]
      ring
    have hyear' : (foldMonth (c.monthIndex / 12) (c.monthIndex % 12 + 1 + 1)).1 =
        (c.monthIndex + 1) / 12 := by
      simp only [foldMonth]
      omega
    rw [← hlength] at hdays ⊢
    exact hstep 1 (hyear' ▸ hnext) hdays hmonths
  · intro year' month' hbefore hyear' hdays hmonths
    have hindex : year' = (c.monthIndex - 1) / 12 ∧ month' = (c.monthIndex - 1) % 12 + 1 := by
      simp only [foldMonth, Prod.mk.injEq] at hbefore
      omega
    obtain ⟨rfl, rfl⟩ := hindex
    have hlength : monthStart (c.monthIndex + -1) - monthStart c.monthIndex =
        -monthLength ((c.monthIndex - 1) / 12) ((c.monthIndex - 1) % 12 + 1) := by
      have hsucc := monthStart_succ (c.monthIndex - 1)
      rw [sub_add_cancel] at hsucc
      rw [← sub_eq_add_neg, hsucc]
      ring
    rw [← hlength] at hdays ⊢
    exact hstep (-1) hyear' hdays hmonths
  · rw [cal.date?_monthDay hselector hlimits, if_pos ⟨hleap, hyear⟩,
      dayNumber_eq_first (by omega) (show _ = c.monthIndex by omega)]

end MonthDay

/-- In Berlin, half past `-22` hours of the 119th day of month `0` of 2021 is half past two in the
morning of 28 March, which is skipped. -/
theorem date?_carries_skipped :
    let cal : Calendar := ⟨.sunday, .region "Europe/Berlin" Region.berlin⟩
    let c : DateFields :=
      { year := some 2021, month := some 0, day := some 119, hour := some (-22), minute := some 30 }
    let resolution : Resolution := { skipped := .latter }
    cal.date? c resolution = some (.ofSeconds 1616891400) ∧
      cal.date? (c.plus .hour (24 * (-1))) resolution = cal.date? (c.plus .day (-1)) resolution ∧
      cal.date? (c.plus .month (12 * 3)) resolution = cal.date? (c.plus .year 3) resolution ∧
      cal.date? (c.plus .day 31) resolution = cal.date? (c.plus .month 1) resolution ∧
      cal.date? (c.plus .day (-30)) resolution = cal.date? (c.plus .month (-1)) resolution := by
  intro cal c resolution
  have hmonth : foldMonth c.fullYear (c.month.getD 1) = (2020, 12) := by decide
  obtain ⟨hcarries, hmonths⟩ := cal.date?_carries (c := c) rfl resolution hmonth
  obtain ⟨hnext, hbefore, hdate⟩ := hmonths (by decide)
  refine ⟨?_, hcarries _ _ _ (by decide) (by decide) (-1) (by decide) (by decide),
    hcarries _ _ _ (by decide) (by decide) 3 (by decide) (by decide),
    hnext (by decide) (by decide) (by decide), hbefore 2020 11 (by decide) (by decide) (by decide)
      (by decide)⟩
  rw [hdate (by decide) (by decide)]
  decide +kernel

end Calendar

end Almanac
