import Mathlib
import Almanac.Proofs.Calendar.YearLimit
import Almanac.Proofs.Checked.Date
import Almanac.Proofs.Checked.WallClock

/-!
# Dates from fields in 64 bits

The way from date fields to an instant, step by step. Fields within their limit are at most a
million million. What they are multiplied by leaves the day below `8 * 10 ^ 12`, and the reading
below `8 * 10 ^ 17` seconds.

* `Checked.andThen`: what is calculated from a value that may be missing.
* `Checked.dayNumber?` and `Checked.dayNumberAt?`: the day that is pinned.
* `Checked.instantOf` and `Checked.date?`: the instant of a local day, and that of date fields.
* **`Checked.date?_eq`**: no step overflows.
-/

namespace Almanac

/-! ## Sizes -/

namespace DateFields

variable {c : DateFields}

theorem WithinLimits.natAbs_getD_le (h : c.WithinLimits) (unit : TimeUnit) {default : ℤ} {bound : ℕ}
    (hbound : 10 ^ 12 ≤ bound) (hdefault : default.natAbs ≤ bound) :
    ((c.get unit).getD default).natAbs ≤ bound := by
  cases hvalue : c.get unit with
  | none => exact hdefault
  | some value =>
    have hsize := h unit unit.mem_all value hvalue
    unfold IsFieldSized largestField at hsize
    rw [Option.getD_some]
    omega

theorem WithinLimits.natAbs_fullYear_le (h : c.WithinLimits) :
    c.fullYear.natAbs ≤ 10 ^ 12 + 1 := by
  have hyear : (c.year.getD 1).natAbs ≤ 10 ^ 12 := h.natAbs_getD_le .year le_rfl (by decide)
  rw [fullYear, astronomicalYear]
  split <;> omega

theorem weekday_of_daySelector? {n weekday : ℤ}
    (h : c.daySelector? = some (.nthWeekday n weekday)) : c.weekday = some weekday := by
  have hdefault : c.defaultSelector ≠ .nthWeekday n weekday := by
    unfold defaultSelector
    split <;> nofun
  unfold daySelector? at h
  split at h
  · cases h
  · next hweekday =>
    split at h
    · cases h
    · cases h
    · obtain ⟨-, rfl⟩ := DaySelector.nthWeekday.inj (Option.some.inj h)
      exact hweekday
    · exact absurd (Option.some.inj h) hdefault
  · exact absurd (Option.some.inj (Option.ite_none_left_eq_some.mp h).2) hdefault

end DateFields

namespace Checked

variable {α β : Type}

/-- What is calculated from a value that may be missing. -/
def andThen (x : Checked (Option α)) (f : α → Checked β) : Checked (Option β) := do
  match ← x with
  | none => value none
  | some a => some <$> f a

theorem andThen_eq {o : Option α} {f : α → Checked β} {g : α → β}
    (h : ∀ a, o = some a → f a = value (g a)) : andThen (value o) f = value (o.map g) := by
  cases o with
  | none => rfl
  | some a =>
    change some <$> f a = _
    rw [h a rfl]
    rfl

/-! ## Days -/

/-- The number of a day of a month counted on from `year`, if the year it falls in is allowed. -/
def dayNumber? (year month day : ℤ) : Checked (Option ℤ) := do
  let folded ← foldMonth year month
  if IsYearSized folded.1 then some <$> dayNumber ⟨folded.1, folded.2, day⟩ else value none

theorem dayNumber?_eq {year month day : ℤ} (hyear : year.natAbs < 10 ^ 15)
    (hmonth : month.natAbs < 10 ^ 15) (hday : day.natAbs < 10 ^ 15) :
    dayNumber? year month day = value (Almanac.dayNumber? year month day) := by
  rw [dayNumber?, foldMonth_eq hyear hmonth, value_bind]
  simp only [Almanac.dayNumber?]
  split
  · next hsized =>
    unfold IsYearSized largestYear at hsized
    rw [dayNumber_eq (foldMonth_snd_mem year month) (by dsimp only; omega) hday, map_value]
  · rfl

theorem natAbs_lt_of_dayNumber? {year month day number : ℤ} (hday : day.natAbs ≤ 31)
    (h : Almanac.dayNumber? year month day = some number) : number.natAbs < 10 ^ 12 := by
  have hself : |number - number| ≤ 0 := by rw [sub_self, abs_zero]
  have hsize := (IsBeyondYears.of_dayNumber? h hself).natAbs_lt
  have hcarried : |day - 1| ≤ 32 := abs_le.mpr (by omega)
  omega

/-- The number of the day that is pinned, with the months counted on from `year`. -/
def dayNumberAt? (c : DateFields) (weeks : WeekNumbering) (year : ℤ) :
    DaySelector → Checked (Option ℤ)
  | .monthDay day => dayNumber? year (c.month.getD 1) day
  | .yearWeek week =>
    andThen (dayNumber? (c.yearForWeekOfYear.getD year) 1 1) fun start =>
      dayAt weeks start week c.weekday
  | .monthWeek week =>
    andThen (dayNumber? year (c.month.getD 1) 1) fun start => dayAt weeks start week c.weekday
  | .nthWeekday n weekday => do
    let folded ← foldMonth year (c.month.getD 1)
    andThen (dayNumber? folded.1 folded.2 1) fun start => do
      nthWeekday weeks start (← monthLength folded.1 folded.2) n weekday

theorem dayNumberAt?_eq {c : DateFields} (hlimits : c.WithinLimits) (weeks : WeekNumbering)
    {selector : DaySelector} (hselector : c.daySelector? = some selector) :
    dayNumberAt? c weeks c.fullYear selector = value (c.dayNumberAt? weeks selector) := by
  have hyear := hlimits.natAbs_fullYear_le
  have hmonth : (c.month.getD 1).natAbs ≤ 10 ^ 12 :=
    hlimits.natAbs_getD_le .month le_rfl (by decide)
  have hcarried := hlimits.daysCarried_le hselector
  have hweekday : ∀ value ∈ c.weekday, value.natAbs < 10 ^ 15 := by
    intro value hvalue
    have hsize := hlimits .weekday (TimeUnit.mem_all _) value hvalue
    unfold IsFieldSized largestField at hsize
    omega
  unfold largestField at hcarried
  cases selector with
  | monthDay day =>
    have hday := abs_le.mp hcarried
    exact dayNumber?_eq (by omega) (by omega) (by omega)
  | yearWeek week =>
    have hweek : 7 * |week - 1| ≤ _ := hcarried
    have hweek' := abs_le.mp (le_refl |week - 1|)
    have hweekYear : (c.yearForWeekOfYear.getD c.fullYear).natAbs ≤ 10 ^ 12 + 1 :=
      hlimits.natAbs_getD_le .yearForWeekOfYear (by decide) hyear
    rw [dayNumberAt?, dayNumber?_eq (by omega) (by decide) (by decide)]
    refine andThen_eq fun start hstart => dayAt_eq weeks ?_ (by omega) hweekday
    have hsize := natAbs_lt_of_dayNumber? (by decide) hstart
    omega
  | monthWeek week =>
    have hweek : 7 * |week - 1| ≤ _ := hcarried
    have hweek' := abs_le.mp (le_refl |week - 1|)
    rw [dayNumberAt?, dayNumber?_eq (by omega) (by omega) (by decide)]
    refine andThen_eq fun start hstart => dayAt_eq weeks ?_ (by omega) hweekday
    have hsize := natAbs_lt_of_dayNumber? (by decide) hstart
    omega
  | nthWeekday n weekday =>
    have hn : 7 * |n| ≤ _ := hcarried
    have hn' := abs_le.mp (le_refl |n|)
    have hmem := foldMonth_snd_mem c.fullYear (c.month.getD 1)
    have hcount := foldMonth_count c.fullYear (c.month.getD 1)
    rw [dayNumberAt?, foldMonth_eq (by omega) (by omega), value_bind,
      dayNumber?_eq (by omega) (by omega) (by decide)]
    refine andThen_eq fun start hstart => ?_
    have hsize := natAbs_lt_of_dayNumber? (by decide) hstart
    rw [monthLength_eq, value_bind]
    exact nthWeekday_eq weeks (by omega) (monthLength_mem _ _) (by omega)
      (hweekday _ (DateFields.weekday_of_daySelector? hselector))

/-! ## Instants -/

/-- The instant of a local day and a time of day. -/
def instantOf (cal : Calendar) (dayNumber secondOfDay nanosecond : ℤ) (resolution : Resolution) :
    Checked Instant := do
  let reading : ℤ ←
    dayNumber * secondsPerDay + secondOfDay + ediv nanosecond nanosPerSecond
  let second ← toUtc cal.zone reading resolution
  let nanos : ℤ ← emod nanosecond nanosPerSecond
  value (Instant.ofSeconds second + (Binary64.ofInt nanos / Binary64.ofInt nanosPerSecond))

theorem instantOf_eq {cal : Calendar} (hday : cal.zone.source.WithinDay)
    {dayNumber secondOfDay nanosecond : ℤ} (hnumber : dayNumber.natAbs < 8 * 10 ^ 12)
    (hsecond : secondOfDay.natAbs < 10 ^ 16) (hnanos : nanosecond.natAbs < 10 ^ 18)
    (resolution : Resolution) : instantOf cal dayNumber secondOfDay nanosecond resolution =
      value (cal.instantOf dayNumber secondOfDay nanosecond resolution) := by
  have hseconds : secondsPerDay = 86400 := rfl
  have hnanosPerSecond : nanosPerSecond = 1000000000 := rfl
  rw [instantOf, hnanosPerSecond, hseconds]
  simp (disch := omega) only [mul_eq, add_eq, ediv_eq, emod_eq, value_bind]
  rw [toUtc_eq hday (by omega)]
  rfl

/-- The instant of date fields, if they pin a day within the limits. -/
def date? (cal : Calendar) (c : DateFields) (resolution : Resolution) : Checked (Option Instant) :=
  if c.isLeapMonth = some true ∨ ¬ c.WithinLimits then value none
  else
    match c.daySelector? with
    | none => value none
    | some selector => do
      let year ← astronomicalYear (c.era.getD 1) (c.year.getD 1)
      andThen (dayNumberAt? c cal.weeks year selector) fun dayNumber => do
        let secondOfDay : ℤ ← c.hour.getD 0 * 3600 + c.minute.getD 0 * 60 + c.second.getD 0
        instantOf cal dayNumber secondOfDay (c.nanosecond.getD 0) resolution

/-- **No step from date fields to an instant overflows.** -/
theorem date?_eq {cal : Calendar} (hday : cal.zone.source.WithinDay) (c : DateFields)
    (resolution : Resolution) : date? cal c resolution = value (cal.date? c resolution) := by
  rw [date?, Calendar.date?]
  split
  · rfl
  next hfields =>
  obtain ⟨-, hlimits⟩ := not_or.mp hfields
  rw [not_not] at hlimits
  have hyear : (c.year.getD 1).natAbs ≤ 10 ^ 12 := hlimits.natAbs_getD_le .year le_rfl (by decide)
  have hhour : (c.hour.getD 0).natAbs ≤ 10 ^ 12 := hlimits.natAbs_getD_le .hour le_rfl (by decide)
  have hminute : (c.minute.getD 0).natAbs ≤ 10 ^ 12 :=
    hlimits.natAbs_getD_le .minute le_rfl (by decide)
  have hsecond : (c.second.getD 0).natAbs ≤ 10 ^ 12 :=
    hlimits.natAbs_getD_le .second le_rfl (by decide)
  have hnanos : (c.nanosecond.getD 0).natAbs ≤ 10 ^ 12 :=
    hlimits.natAbs_getD_le .nanosecond le_rfl (by decide)
  cases hselector : c.daySelector? with
  | none => rfl
  | some selector =>
    have hcarried := hlimits.daysCarried_le hselector
    unfold largestField at hcarried
    dsimp only
    have hstart : astronomicalYear (c.era.getD 1) (c.year.getD 1) = value c.fullYear :=
      astronomicalYear_eq _ (by omega)
    rw [hstart, value_bind, dayNumberAt?_eq hlimits cal.weeks hselector]
    change _ = value ((c.dayNumberAt? cal.weeks selector).bind
      (some ∘ fun n => cal.instantOf n c.secondOfDay (c.nanosecond.getD 0) resolution))
    rw [← Option.map_eq_bind]
    refine andThen_eq fun n hn => ?_
    have hsize := (Calendar.isBeyondYears_dayNumberAt? hn).natAbs_lt
    simp (disch := omega) only [ofNat_eq, mul_eq, add_eq, value_bind]
    exact instantOf_eq hday (by omega) (by omega) (by omega) resolution

end Checked

end Almanac
