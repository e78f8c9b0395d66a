import Mathlib
import Almanac.Proofs.Date.Month

/-!
# Counting days

The day number of a date is a count of days: of the whole years between 1970 and its year, taken
forwards or backwards, then of the months before its month, then of the days before its day.

* `daysToYear` and `daysToMonth`: the two sums of lengths.
* `daysToYear_succ`: the sums over the years follow each other on both sides of 1970.
* `dayNumber_firstOfYear` and `monthStart_eq_count`: first days are counted by them.
* `sum_monthLength`: the months of a year make up the year.
* **`Date.dayNumber_eq_count`**: day numbers count days, and weekdays go round with them.
-/

namespace Almanac

/-- The days from the first day of 1970 to that of `year`: the years from 1970 on are added, and
for an earlier year those from 1969 back are taken away. -/
def daysToYear (year : ℤ) : ℤ :=
  ∑ k ∈ Finset.range (year - 1970).toNat, yearLength (1970 + k) -
    ∑ k ∈ Finset.range (1970 - year).toNat, yearLength (1969 - k)

/-- The days of a year before the first day of `month`. -/
def daysToMonth (year month : ℤ) : ℤ :=
  ∑ k ∈ Finset.range (month - 1).toNat, monthLength year (k + 1)

theorem daysToYear_succ (year : ℤ) : daysToYear (year + 1) = daysToYear year + yearLength year := by
  unfold daysToYear
  rcases le_or_gt 1970 year with h | h
  · -- the first sum gains a year, and the second one is empty
    have hgain : (year + 1 - 1970).toNat = (year - 1970).toNat + 1 := by omega
    have hyear : 1970 + ((year - 1970).toNat : ℤ) = year := by omega
    have hempty : (1970 - year).toNat = 0 ∧ (1970 - (year + 1)).toNat = 0 := by omega
    rw [hgain, Finset.sum_range_succ, hyear, hempty.1, hempty.2]
    omega
  · -- the second sum loses a year, and the first one is empty
    have hloss : (1970 - year).toNat = (1970 - (year + 1)).toNat + 1 := by omega
    have hyear : 1969 - ((1970 - (year + 1)).toNat : ℤ) = year := by omega
    have hempty : (year - 1970).toNat = 0 ∧ (year + 1 - 1970).toNat = 0 := by omega
    rw [hloss, Finset.sum_range_succ, hyear, hempty.1, hempty.2]
    omega

theorem daysToMonth_succ (year : ℤ) {month : ℤ} (h : 1 ≤ month) :
    daysToMonth year (month + 1) = daysToMonth year month + monthLength year month := by
  have hgain : (month + 1 - 1).toNat = (month - 1).toNat + 1 := by omega
  have hmonth : ((month - 1).toNat : ℤ) + 1 = month := by omega
  unfold daysToMonth
  rw [hgain, Finset.sum_range_succ, hmonth]

theorem dayNumber_firstOfYear (year : ℤ) : Date.dayNumber ⟨year, 1, 1⟩ = daysToYear year := by
  -- year by year from 1970, in both directions
  induction year using Int.inductionOn' (b := 1970) with
  | zero => decide
  | succ year _ ih => rw [dayNumber_next_year, daysToYear_succ, ih]
  | pred year _ ih =>
    have hd := dayNumber_next_year (year - 1)
    have hs := daysToYear_succ (year - 1)
    rw [sub_add_cancel] at hd hs
    omega

theorem monthStart_eq_count (year : ℤ) {month : ℤ} (h₁ : 1 ≤ month) (h₂ : month ≤ 13) :
    monthStart (12 * year + month - 1) = daysToYear year + daysToMonth year month := by
  induction month, h₁ using Int.leInduction with
  | base =>
    have hempty : daysToMonth year 1 = 0 := rfl
    rw [← dayNumber_eq_first (by decide) rfl, dayNumber_firstOfYear, hempty, add_zero]
  | succ month h₁ ih =>
    have hnext : 12 * year + (month + 1) - 1 = 12 * year + month - 1 + 1 := by omega
    have hy : (12 * year + month - 1) / 12 = year := by omega
    have hm : (12 * year + month - 1) % 12 + 1 = month := by omega
    rw [hnext, monthStart_succ, ih (by omega), hy, hm, daysToMonth_succ year h₁, add_assoc]

theorem sum_monthLength (year : ℤ) : daysToMonth year 13 = yearLength year := by
  have hend := monthStart_eq_count year (show (1 : ℤ) ≤ 13 by decide) le_rfl
  have hnext : (12 * year + 13 - 1 : ℤ) = 12 * (year + 1) + 1 - 1 := by omega
  rw [hnext, ← dayNumber_eq_first (by decide) rfl, dayNumber_firstOfYear, daysToYear_succ] at hend
  omega

theorem weekdayOf_succ (n : ℤ) : weekdayOf (n + 1) = weekdayOf n % 7 + 1 := by
  unfold weekdayOf
  omega

namespace Date

/-- **The day number of a date is the count of days from 1970-01-01**, a Thursday, and weekdays go
round with it. The twelve months of a year have the days of the year. -/
theorem dayNumber_eq_count :
    (∀ year month day, 1 ≤ month ∧ month ≤ 12 →
      dayNumber ⟨year, month, day⟩ = daysToYear year + daysToMonth year month + (day - 1)) ∧
    (weekdayOf (dayNumber ⟨1970, 1, 1⟩) = 5 ∧ ∀ n, weekdayOf (n + 1) = weekdayOf n % 7 + 1) ∧
    ∀ year, ∑ k ∈ Finset.range 12, monthLength year (k + 1) = yearLength year := by
  refine ⟨fun year month day h => ?_, ⟨by decide, weekdayOf_succ⟩, sum_monthLength⟩
  rw [dayNumber_add_day, dayNumber_eq_first h rfl, monthStart_eq_count year h.1 (by omega)]

/-- The thirty-first day counted from the first of February of the leap year `-4`. -/
theorem dayNumber_eq_count_leapFebruary :
    (1 ≤ (2 : ℤ) ∧ (2 : ℤ) ≤ 12) ∧
      dayNumber ⟨-4, 2, 31⟩ = daysToYear (-4) + daysToMonth (-4) 2 + 30 :=
  ⟨by decide, dayNumber_eq_count.1 (-4) 2 31 (by decide)⟩

end Date

end Almanac
