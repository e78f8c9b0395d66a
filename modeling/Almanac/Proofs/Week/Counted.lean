import Mathlib
import Almanac.Proofs.Week.Formula
import Almanac.Proofs.Calendar.Fields

/-!
# Counted weekdays

The days of a month that fall on one weekday are a week apart, and there are four or five of them.
An ordinal counts them from the first or, if it is negative, from the last, and runs on in whole
weeks outside the month. The weekday that weeks begin on plays no part.

* `weekdaysIn`: the days of a period that fall on a weekday.
* `weekdaysIn_eq_image` and `card_weekdaysIn_lt`: they are a week apart, in order.
* `WeekNumbering.nthWeekday_eq`: the counted day, without the week numbering.
* `weekdaysOfMonth`, `WeekNumbering.nthOfMonth`: the same for a month that may lie outside its year.
* **`Calendar.nthOfMonth_counts`**: ordinals count from either end of the month.
-/

namespace Almanac

/-! ## The days of a weekday -/

/-- The days of a period that fall on a weekday. -/
noncomputable def weekdaysIn (start length weekday : ℤ) : Finset ℤ :=
  {n ∈ Finset.Ico start (start + length) | weekdayOf n = weekday}

/-- The first day from `start` on that falls on a weekday. -/
def weekdayFrom (start weekday : ℤ) : ℤ := start + (weekday - weekdayOf start) % 7

/-- How many days of a period fall on a weekday. -/
def weekdayCount (start length weekday : ℤ) : ℕ :=
  ((start + length - 1 - weekdayFrom start weekday) / 7 + 1).toNat

theorem weekdayFrom_mem (start weekday : ℤ) :
    start ≤ weekdayFrom start weekday ∧ weekdayFrom start weekday < start + 7 := by
  unfold weekdayFrom
  omega

theorem weekdayCount_mem {length : ℤ} (hlength : 7 ≤ length) (start weekday : ℤ) :
    start + length ≤ weekdayFrom start weekday + 7 * weekdayCount start length weekday ∧
      weekdayFrom start weekday + 7 * weekdayCount start length weekday < start + length + 7 := by
  have hfirst := weekdayFrom_mem start weekday
  unfold weekdayCount
  omega

theorem weekdayOf_eq_iff {weekday : ℤ} (hweekday : 1 ≤ weekday ∧ weekday ≤ 7) (start n : ℤ) :
    weekdayOf n = weekday ↔ (n - weekdayFrom start weekday) % 7 = 0 := by
  unfold weekdayFrom weekdayOf
  omega

section WeekdaysIn

variable {start length weekday : ℤ} (hweekday : 1 ≤ weekday ∧ weekday ≤ 7) (hlength : 7 ≤ length)
include hweekday hlength

theorem weekdaysIn_eq_image : weekdaysIn start length weekday =
    (Finset.range (weekdayCount start length weekday)).image
      fun i : ℕ => weekdayFrom start weekday + 7 * (i : ℤ) := by
  have hfirst := weekdayFrom_mem start weekday
  have hcount := weekdayCount_mem hlength start weekday
  ext n
  rw [weekdaysIn, Finset.mem_filter, Finset.mem_Ico, weekdayOf_eq_iff hweekday start]
  simp only [Finset.mem_image, Finset.mem_range]
  constructor
  · rintro ⟨hn, hmod⟩
    exact ⟨((n - weekdayFrom start weekday) / 7).toNat, by omega, by omega⟩
  · rintro ⟨i, hi, rfl⟩
    omega

theorem mem_weekdaysIn {i : ℕ} (hi : i < weekdayCount start length weekday) :
    weekdayFrom start weekday + 7 * (i : ℤ) ∈ weekdaysIn start length weekday := by
  rw [weekdaysIn_eq_image hweekday hlength]
  exact Finset.mem_image_of_mem _ (Finset.mem_range.mpr hi)

theorem card_weekdaysIn :
    (weekdaysIn start length weekday).card = weekdayCount start length weekday := by
  rw [weekdaysIn_eq_image hweekday hlength, Finset.card_image_of_injective, Finset.card_range]
  intro i j hij
  dsimp only at hij
  omega

/-- The day of position `i` has `i` days of its weekday before it. -/
theorem card_weekdaysIn_lt {i : ℕ} (hi : i < weekdayCount start length weekday) :
    {n ∈ weekdaysIn start length weekday | n < weekdayFrom start weekday + 7 * (i : ℤ)}.card =
      i := by
  have hbefore : {n ∈ weekdaysIn start length weekday |
      n < weekdayFrom start weekday + 7 * (i : ℤ)} =
        (Finset.range i).image fun j : ℕ => weekdayFrom start weekday + 7 * (j : ℤ) := by
    ext n
    rw [weekdaysIn_eq_image hweekday hlength]
    simp only [Finset.mem_filter, Finset.mem_image, Finset.mem_range]
    constructor
    · rintro ⟨⟨j, -, rfl⟩, hlt⟩
      exact ⟨j, by omega, rfl⟩
    · rintro ⟨j, hj, rfl⟩
      exact ⟨⟨j, by omega, rfl⟩, by omega⟩
  rw [hbefore, Finset.card_image_of_injective, Finset.card_range]
  intro j j' hj
  dsimp only at hj
  omega

theorem isLeast_weekdaysIn :
    IsLeast (weekdaysIn start length weekday : Set ℤ) (weekdayFrom start weekday) := by
  have hfirst := weekdayFrom_mem start weekday
  have hcount := weekdayCount_mem hlength start weekday
  constructor
  · have hmem := mem_weekdaysIn hweekday hlength
      (show 0 < weekdayCount start length weekday by omega)
    rwa [Nat.cast_zero, mul_zero, add_zero] at hmem
  · intro n hn
    rw [weekdaysIn_eq_image hweekday hlength, Finset.coe_image] at hn
    obtain ⟨i, -, rfl⟩ := hn
    dsimp only
    omega

theorem isGreatest_weekdaysIn : IsGreatest (weekdaysIn start length weekday : Set ℤ)
    (weekdayFrom start weekday + 7 * (weekdayCount start length weekday - 1)) := by
  have hfirst := weekdayFrom_mem start weekday
  have hcount := weekdayCount_mem hlength start weekday
  constructor
  · have hmem := mem_weekdaysIn hweekday hlength
      (show weekdayCount start length weekday - 1 < weekdayCount start length weekday by omega)
    rwa [Nat.cast_sub (by omega), Nat.cast_one] at hmem
  · intro n hn
    rw [weekdaysIn_eq_image hweekday hlength, Finset.coe_image] at hn
    obtain ⟨i, hi, rfl⟩ := hn
    rw [Finset.coe_range, Set.mem_Iio] at hi
    dsimp only
    omega

end WeekdaysIn

/-! ## The counted day -/

namespace WeekNumbering

variable (weeks : WeekNumbering)

/-- **The counted day is the same in every week numbering.** It is as many weeks from the first, or
from the last if the ordinal is negative. -/
theorem nthWeekday_eq {length : ℤ} (hlength : 7 ≤ length) (start ordinal weekday : ℤ) :
    weeks.nthWeekday start length ordinal weekday = weekdayFrom start weekday +
      7 * (if 0 ≤ ordinal then ordinal - 1 else weekdayCount start length weekday + ordinal) := by
  have hfirst : weeks.placeOf weekday - weeks.placeOf (weekdayOf start) =
        (weekday - weekdayOf start) % 7 ∨
      weeks.placeOf weekday - weeks.placeOf (weekdayOf start) =
        (weekday - weekdayOf start) % 7 - 7 := by
    unfold placeOf
    omega
  simp only [nthWeekday]
  unfold weekdayCount weekdayFrom
  omega

end WeekNumbering

/-! ## Months -/

/-- The days of a month, counted on from `year`, that fall on a weekday. -/
noncomputable def weekdaysOfMonth (year month weekday : ℤ) : Finset ℤ :=
  weekdaysIn (Date.dayNumber ⟨(foldMonth year month).1, (foldMonth year month).2, 1⟩)
    (monthLength (foldMonth year month).1 (foldMonth year month).2) weekday

/-- The day that an ordinal counts among those of a weekday in a month, counted on from `year`. -/
def WeekNumbering.nthOfMonth (weeks : WeekNumbering) (year month weekday ordinal : ℤ) : ℤ :=
  weeks.nthWeekday (Date.dayNumber ⟨(foldMonth year month).1, (foldMonth year month).2, 1⟩)
    (monthLength (foldMonth year month).1 (foldMonth year month).2) ordinal weekday

/-- A weekday that is counted in a month. -/
def DateFields.ofNthWeekday (year month weekday ordinal : ℤ) : DateFields :=
  { year := some year, month := some month, weekday := some weekday,
    weekdayOrdinal := some ordinal }

namespace Calendar

variable (cal : Calendar) {year month weekday : ℤ}

theorem date?_ofNthWeekday {ordinal : ℤ} (hyear : IsFieldSized year) (hmonth : IsFieldSized month)
    (hweekday : 1 ≤ weekday ∧ weekday ≤ 7) (hordinal : IsFieldSized ordinal)
    (hsized : IsYearSized (foldMonth year month).1) (resolution : Resolution) :
    cal.date? (.ofNthWeekday year month weekday ordinal) resolution =
      some (cal.instantOf (cal.weeks.nthOfMonth year month weekday ordinal) 0 0 resolution) := by
  have hlimits : (DateFields.ofNthWeekday year month weekday ordinal).WithinLimits := by
    intro unit _ value hvalue
    cases unit <;> simp only [DateFields.get, DateFields.ofNthWeekday, Option.mem_def, reduceCtorEq,
      Option.some.injEq] at hvalue
    case year => exact hvalue ▸ hyear
    case month => exact hvalue ▸ hmonth
    case weekday =>
      unfold IsFieldSized largestField
      omega
    case weekdayOrdinal => exact hvalue ▸ hordinal
  refine cal.date?_of_dayNumber (by simp [DateFields.ofNthWeekday]) hlimits rfl ?_ resolution
  have hstart : dayNumber? (foldMonth year month).1 (foldMonth year month).2 1 = some _ :=
    dayNumber?_of_mem 1 (foldMonth_snd_mem year month) hsized
  change (dayNumber? (foldMonth year month).1 (foldMonth year month).2 1).map _ = _
  rw [hstart]
  rfl

/-- **Ordinals count the weekdays of a month from either end.** There are four or five. The `k`-th
has `k - 1` before it, and its negative ordinal is less by their number and one. Ordinals from zero
on are whole weeks from the first, negative ones from the last, and no week numbering makes a
difference. Dates follow them. -/
theorem nthOfMonth_counts (year month : ℤ) (hweekday : 1 ≤ weekday ∧ weekday ≤ 7) :
    ∃ (first last : ℤ) (count : ℕ),
      IsLeast (weekdaysOfMonth year month weekday : Set ℤ) first ∧
      IsGreatest (weekdaysOfMonth year month weekday : Set ℤ) last ∧
      (weekdaysOfMonth year month weekday).card = count ∧ (count = 4 ∨ count = 5) ∧
      (∀ k : ℕ, 1 ≤ k → k ≤ count → ∃ day, cal.weeks.nthOfMonth year month weekday k = day ∧
        day ∈ weekdaysOfMonth year month weekday ∧
        {n ∈ weekdaysOfMonth year month weekday | n < day}.card = k - 1 ∧
        cal.weeks.nthOfMonth year month weekday (k - count - 1) = day) ∧
      (∀ ordinal, 0 ≤ ordinal →
        cal.weeks.nthOfMonth year month weekday ordinal = first + 7 * (ordinal - 1)) ∧
      (∀ ordinal, ordinal < 0 →
        cal.weeks.nthOfMonth year month weekday ordinal = last + 7 * (ordinal + 1)) ∧
      (∀ (weeks : WeekNumbering) (ordinal : ℤ),
        weeks.nthOfMonth year month weekday ordinal =
          cal.weeks.nthOfMonth year month weekday ordinal) ∧
      ∀ ordinal, IsFieldSized year → IsFieldSized month → IsFieldSized ordinal →
        IsYearSized (foldMonth year month).1 → ∀ resolution,
          cal.date? (.ofNthWeekday year month weekday ordinal) resolution =
            some (cal.instantOf (cal.weeks.nthOfMonth year month weekday ordinal) 0 0
              resolution) := by
  have hlength := monthLength_mem (foldMonth year month).1 (foldMonth year month).2
  have hdate := fun (ordinal : ℤ) (hyear : IsFieldSized year) (hmonth : IsFieldSized month)
      (hordinal : IsFieldSized ordinal) hsized =>
    cal.date?_ofNthWeekday hyear hmonth hweekday hordinal hsized
  simp only [weekdaysOfMonth, WeekNumbering.nthOfMonth] at hdate ⊢
  generalize Date.dayNumber _ = start, monthLength _ _ = length at *
  have hweek : 7 ≤ length := by omega
  have hfirst := weekdayFrom_mem start weekday
  have hcount := weekdayCount_mem hweek start weekday
  have hnth := fun weeks : WeekNumbering => weeks.nthWeekday_eq hweek start
  refine ⟨_, _, _, isLeast_weekdaysIn hweekday hweek, isGreatest_weekdaysIn hweekday hweek,
    card_weekdaysIn hweekday hweek, by omega, ?_, ?_, ?_, ?_, hdate⟩
  · intro k h₁ hk
    have hi : k - 1 < weekdayCount start length weekday := by omega
    have hcast : ((k - 1 : ℕ) : ℤ) = k - 1 := by omega
    refine ⟨weekdayFrom start weekday + 7 * ((k - 1 : ℕ) : ℤ), ?_, mem_weekdaysIn hweekday hweek hi,
      card_weekdaysIn_lt hweekday hweek hi, ?_⟩
    · rw [hnth, if_pos (by omega), hcast]
    · rw [hnth, if_neg (by omega), hcast]
      ring
  · intro ordinal h
    rw [hnth, if_pos h]
  · intro ordinal h
    rw [hnth, if_neg (by omega)]
    ring
  · intro weeks ordinal
    rw [hnth, hnth]

/-- The second month after December 2023 is a leap February with five Thursdays, of which the fifth
from the end is its first day. -/
theorem nthOfMonth_counts_leapFebruary :
    (1 ≤ (5 : ℤ) ∧ (5 : ℤ) ≤ 7) ∧ (weekdaysOfMonth 2023 14 5).card = 5 ∧
      standard.weeks.nthOfMonth 2023 14 5 (-5) = Date.dayNumber ⟨2024, 2, 1⟩ ∧
      standard.weeks.nthOfMonth 2023 14 5 0 = Date.dayNumber ⟨2024, 1, 25⟩ := by
  obtain ⟨first, last, count, hleast, -, hcard, -, hnth, hforward, -⟩ :=
    standard.nthOfMonth_counts 2023 14 (by decide : 1 ≤ (5 : ℤ) ∧ (5 : ℤ) ≤ 7)
  have hfive : (weekdaysOfMonth 2023 14 5).card = 5 := by decide +kernel
  obtain rfl : count = 5 := hcard.symm.trans hfive
  obtain ⟨day, hday, -, -, hback⟩ := hnth 1 (by decide) (by decide)
  have hfirst : day = first := by
    rw [← hday, hforward _ (by decide)]
    norm_num
  have hnumber : first = Date.dayNumber ⟨2024, 2, 1⟩ :=
    hleast.unique ⟨by decide +kernel, fun n hn => (Finset.mem_Ico.mp (Finset.mem_filter.mp hn).1).1⟩
  refine ⟨by decide, hfive, ?_, ?_⟩
  · exact hback.trans (hfirst.trans hnumber)
  · rw [hforward 0 le_rfl, hnumber]
    decide

end Calendar

end Almanac
