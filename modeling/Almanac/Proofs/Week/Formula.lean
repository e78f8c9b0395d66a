import Almanac.Week

/-!
# The two week formulas

A period that begins on day `p` has its first week where day `p + minimumDays - 1` lies: that week
holds enough days of the period, and the week before does not. Both formulas of a week numbering
count from the first day of that week.

* `WeekNumbering.firstWeek`: the first day of the first week of a period.
* `weekAt_eq_firstWeek`: the number of a day's week, from the first week.
* `dayAt_eq_firstWeek` and `dayAt_weekOf`: the day of a weekday in a numbered week, and back.
* `nthWeekday_of_le`: the same for weekdays that are counted in a month.
* **`weekAt_dayAt`**: the two formulas are inverse to each other over any period.
-/

namespace Almanac

namespace WeekNumbering

variable (weeks : WeekNumbering)

theorem placeOf_weekdayOf (n : Int) :
    weeks.placeOf (weekdayOf n) = (n + 5 - weeks.firstWeekday) % 7 := by
  unfold placeOf weekdayOf
  omega

theorem startOfWeek_eq (n : Int) :
    weeks.startOfWeek n = n - (n + 5 - weeks.firstWeekday) % 7 := by
  rw [startOfWeek, placeOf_weekdayOf]

theorem startOfWeek_emod (n : Int) : weeks.startOfWeek n % 7 = (weeks.firstWeekday + 2) % 7 := by
  rw [startOfWeek_eq]
  omega

/-- The first day of the first week of the period that begins on day `p`. -/
def firstWeek (p : Int) : Int := weeks.startOfWeek (p + weeks.minimumDays - 1)

/-- The first week is that of the first day, if enough of it lies in the period, or the next. -/
theorem firstWeek_eq (p : Int) : weeks.firstWeek p =
    p - weeks.placeOf (weekdayOf p) +
      (if weeks.minimumDays ≤ 7 - weeks.placeOf (weekdayOf p) then 0 else 7) := by
  have hm := weeks.minimumDays_mem
  rw [firstWeek, startOfWeek_eq, placeOf_weekdayOf]
  omega

theorem firstWeek_emod (p : Int) : weeks.firstWeek p % 7 = (weeks.firstWeekday + 2) % 7 :=
  weeks.startOfWeek_emod _

theorem firstWeek_mem (p : Int) : p - 7 < weeks.firstWeek p ∧ weeks.firstWeek p < p + 7 := by
  have h := weeks.startOfWeek_mem (p + weeks.minimumDays - 1)
  have hm := weeks.minimumDays_mem
  unfold firstWeek
  omega

theorem weekAt_eq_firstWeek (p n : Int) :
    weeks.weekAt (n - p + 1) (n - p + 1) (weekdayOf n) = (n - weeks.firstWeek p) / 7 + 1 := by
  have hstart : (weekdayOf n - weeks.firstWeekday - (n - p + 1) + 1) % 7 =
      weeks.placeOf (weekdayOf p) := by
    unfold placeOf weekdayOf
    omega
  have hp := weeks.placeOf_mem (weekdayOf p)
  rw [firstWeek_eq, weekAt, hstart]
  omega

theorem dayAt_eq_firstWeek (p week : Int) (weekday : Option Int) :
    weeks.dayAt p week weekday = weeks.firstWeek p + 7 * (week - 1) +
      (match weekday with | some weekday => weeks.placeOf weekday | none => 0) := by
  rw [firstWeek_eq]
  cases weekday <;> simp only [dayAt] <;> omega

/-- Every day is that of its weekday in its week, in whichever period weeks are counted. -/
theorem dayAt_weekOf (p n : Int) :
    weeks.dayAt p ((n - weeks.firstWeek p) / 7 + 1) (some (weekdayOf n)) = n := by
  have hw := weeks.firstWeek_emod p
  simp only [dayAt_eq_firstWeek]
  rw [placeOf_weekdayOf]
  omega

theorem weekAt_eq_zero_iff {p n : Int} (h : p ≤ n) :
    weeks.weekAt (n - p + 1) (n - p + 1) (weekdayOf n) = 0 ↔ n < weeks.firstWeek p := by
  have hf := weeks.firstWeek_mem p
  rw [weekAt_eq_firstWeek]
  omega

theorem eq_dayAt_iff {weekday : Int} (h : 1 ≤ weekday ∧ weekday ≤ 7) (p week n : Int) :
    n = weeks.dayAt p week (some weekday) ↔ weekdayOf n = weekday ∧
      weeks.firstWeek p + 7 * (week - 1) ≤ n ∧ n < weeks.firstWeek p + 7 * (week - 1) + 7 := by
  have hw := weeks.firstWeek_emod p
  simp only [dayAt_eq_firstWeek]
  unfold placeOf weekdayOf
  omega

theorem nthWeekday_of_le {p n : Int} (length : Int) (h : p ≤ n) :
    weeks.nthWeekday p length ((n - p) / 7 + 1) (weekdayOf n) = n := by
  simp only [nthWeekday, placeOf_weekdayOf]
  omega

/-- **The two formulas are inverse to each other over any period.** Both count from the week that
holds day `minimumDays` of the period: one numbers the weeks of its days, with `0` before that week,
and the other finds the day of a weekday in a numbered week. -/
theorem weekAt_dayAt (p : Int) : ∃ first,
    (weekdayOf first = weeks.firstWeekday ∧ first ≤ p + weeks.minimumDays - 1 ∧
      p + weeks.minimumDays - 1 < first + 7) ∧
    (∀ n, p ≤ n →
      weeks.weekAt (n - p + 1) (n - p + 1) (weekdayOf n) = (n - first) / 7 + 1 ∧
      (weeks.weekAt (n - p + 1) (n - p + 1) (weekdayOf n) = 0 ↔ n < first)) ∧
    (∀ week weekday, 1 ≤ weekday ∧ weekday ≤ 7 → ∀ n,
      n = weeks.dayAt p week (some weekday) ↔ weekdayOf n = weekday ∧
        first + 7 * (week - 1) ≤ n ∧ n < first + 7 * (week - 1) + 7) ∧
    (∀ week, weeks.dayAt p week none = first + 7 * (week - 1)) ∧
    (∀ n, p ≤ n → weeks.dayAt p (weeks.weekAt (n - p + 1) (n - p + 1) (weekdayOf n))
      (some (weekdayOf n)) = n) ∧
    (∀ week weekday, 1 ≤ weekday ∧ weekday ≤ 7 → ∀ n, p ≤ n →
      n = weeks.dayAt p week (some weekday) →
        weeks.weekAt (n - p + 1) (n - p + 1) weekday = week) := by
  refine ⟨weeks.firstWeek p, ⟨weeks.weekdayOf_startOfWeek _, weeks.startOfWeek_mem _⟩,
    fun n hn => ⟨weeks.weekAt_eq_firstWeek p n, weeks.weekAt_eq_zero_iff hn⟩,
    fun week weekday h => weeks.eq_dayAt_iff h p week, fun week => ?_, fun n _ => ?_, ?_⟩
  · rw [dayAt_eq_firstWeek, Int.add_zero]
  · rw [weekAt_eq_firstWeek, dayAt_weekOf]
  · intro week weekday h n _ hday
    obtain ⟨rfl, hmem⟩ := (weeks.eq_dayAt_iff h p week n).mp hday
    rw [weekAt_eq_firstWeek]
    omega

end WeekNumbering

end Almanac
