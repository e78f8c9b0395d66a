import Mathlib
import Almanac.Proofs.Date.DayNumber

/-!
# Months in a row

Months are numbered through all years, from January of year `0`. The number of a date's month tells
its year and its month, and the days of a month follow its first day.

* `Date.monthIndex`: the number of the month of a date.
* `monthStart_strictMono` and `monthStart_add_le`: later months begin later, but not too late.
* `Date.monthIndex_ofDayNumber`: the month of a day is the one whose days hold it.
* `monthDays`: the days of a month; `index_mem`: they lie in a run of months with their month.
* **`Date.ofDayNumber_monthStart_add`** and `Date.ofDayNumber_of_month`: the date of a day that is
  counted in its month.
-/

namespace Almanac

theorem monthStart_strictMono : StrictMono monthStart := by
  refine strictMono_int_of_lt_succ fun index => ?_
  have hl := monthLength_mem (index / 12) (index % 12 + 1)
  rw [monthStart_succ]
  omega

theorem monthStart_add_le (index : ℤ) {count : ℤ} (h : 0 ≤ count) :
    monthStart (index + count) ≤ monthStart index + 31 * count := by
  induction count, h using Int.leInduction with
  | base => simp
  | succ count _ ih =>
    have hl := monthLength_mem ((index + count) / 12) ((index + count) % 12 + 1)
    have hs := monthStart_succ (index + count)
    rw [← add_assoc, hs]
    omega

/-- The days of month `index`. -/
def monthDays (index : ℤ) : Set ℤ := Set.Ico (monthStart index) (monthStart (index + 1))

/-- A month with a day among those of other months is one of these. -/
theorem index_mem {index first next n : ℤ} (h : n ∈ monthDays index)
    (hn : n ∈ Set.Ico (monthStart first) (monthStart next)) : first ≤ index ∧ index < next := by
  have h₁ := monthStart_strictMono.lt_iff_lt.mp (hn.1.trans_lt h.2)
  have h₂ := monthStart_strictMono.lt_iff_lt.mp (h.1.trans_lt hn.2)
  omega

theorem dayNumber_eq_first {year month index : ℤ} (hm : 1 ≤ month ∧ month ≤ 12)
    (hindex : 12 * year + month - 1 = index) :
    Date.dayNumber ⟨year, month, 1⟩ = monthStart index := by
  have h : Date.dayNumber ⟨year, month, 1⟩ = _ := Date.dayNumber_eq_monthStart hm
  rw [sub_self, add_zero] at h
  rw [h, ← hindex]

namespace Date

/-- The number of the month of a date, where January of year `0` is month `0`. -/
def monthIndex (date : Date) : ℤ := 12 * date.year + date.month - 1

theorem monthIndex_ofDayNumber {n index : ℤ} :
    (ofDayNumber n).monthIndex = index ↔ monthStart index ≤ n ∧ n < monthStart (index + 1) := by
  have hn := (ofDayNumber_isValid n).monthStart_le
  rw [dayNumber_ofDayNumber] at hn
  constructor
  · rintro rfl
    exact hn
  · rintro ⟨h₁, h₂⟩
    have hle := monthStart_strictMono.lt_iff_lt.mp (hn.1.trans_lt h₂)
    have hge := monthStart_strictMono.lt_iff_lt.mp (h₁.trans_lt hn.2)
    unfold monthIndex
    omega

theorem mem_monthDays (n : ℤ) : n ∈ monthDays (ofDayNumber n).monthIndex :=
  monthIndex_ofDayNumber.mp rfl

/-- **The date of a day that is counted in its month.** -/
theorem ofDayNumber_monthStart_add {index day : ℤ}
    (h : 1 ≤ day ∧ day ≤ monthLength (index / 12) (index % 12 + 1)) :
    ofDayNumber (monthStart index + (day - 1)) = ⟨index / 12, index % 12 + 1, day⟩ := by
  have hv : (⟨index / 12, index % 12 + 1, day⟩ : Date).IsValid := ⟨by dsimp only; omega, h⟩
  rw [monthStart, ← dayNumber_add_day, ofDayNumber_dayNumber hv]

theorem ofDayNumber_of_month {index n : ℤ} (h : n ∈ monthDays index) :
    ofDayNumber n = ⟨index / 12, index % 12 + 1, n - monthStart index + 1⟩ := by
  have hs := monthStart_succ index
  have hmem : 1 ≤ n - monthStart index + 1 ∧
      n - monthStart index + 1 ≤ monthLength (index / 12) (index % 12 + 1) := by
    obtain ⟨h₁, h₂⟩ := h
    omega
  have hdate := ofDayNumber_monthStart_add hmem
  rwa [add_sub_cancel_right, add_sub_cancel] at hdate

theorem monthIndex_mono : Monotone fun n => (ofDayNumber n).monthIndex := by
  intro n later h
  obtain ⟨-, hlast⟩ := mem_monthDays later
  obtain ⟨hfirst, -⟩ := mem_monthDays n
  exact Int.lt_add_one_iff.mp (monthStart_strictMono.lt_iff_lt.mp ((hfirst.trans h).trans_lt hlast))

end Date

end Almanac
