import Mathlib
import Almanac.Date

/-!
# Dates and day numbers

The day number of a date is counted through years that begin in March, where the leap day is the
last day of its year.

* `Date.IsValid`: the month lies in its year and the day in its month.
* `marchStart`, `Date.marchYear`, `Date.marchDay`, `Date.ofMarch`: years that begin in March.
* `dayNumber_eq_march` and `ofDayNumber_march`: both conversions, through those years.
* `monthStart_succ` and `dayNumber_next_year`: first days are a month or a year apart.
* **`Date.dayNumber_correspondence`**: dates and day numbers correspond one to one, in order.
-/

namespace Almanac

/-! ## Dates -/

namespace Date

/-- The month lies in its year and the day in its month. -/
structure IsValid (date : Date) : Prop where
  month_mem : 1 ≤ date.month ∧ date.month ≤ 12
  day_mem : 1 ≤ date.day ∧ date.day ≤ monthLength date.year date.month

/-- Dates are ordered by their years, then by months, then by days. -/
instance : LT Date where
  lt d e := d.year < e.year ∨ d.year = e.year ∧
    (d.month < e.month ∨ d.month = e.month ∧ d.day < e.day)

theorem lt_def {d e : Date} : d < e ↔ d.year < e.year ∨ d.year = e.year ∧
    (d.month < e.month ∨ d.month = e.month ∧ d.day < e.day) := Iff.rfl

end Date

theorem yearLength_eq (year : Int) : yearLength year =
    if year % 4 = 0 ∧ (year % 100 ≠ 0 ∨ year % 400 = 0) then 366 else 365 := by
  simp [yearLength, isLeapYear]

theorem yearLength_mem (year : Int) : 365 ≤ yearLength year ∧ yearLength year ≤ 366 := by
  rw [yearLength_eq]
  omega

theorem monthLength_february (year : Int) : monthLength year 2 = yearLength year - 337 := by
  rw [monthLength, if_pos rfl, yearLength]
  split <;> rfl

theorem monthLength_of_ne {year month : Int} (h : month ≠ 2) :
    monthLength year month = 30 + (month + month / 8) % 2 := if_neg h

theorem monthLength_mem (year month : Int) :
    28 ≤ monthLength year month ∧ monthLength year month ≤ 31 := by
  by_cases h : month = 2
  · have hl := yearLength_mem year
    rw [h, monthLength_february]
    omega
  · rw [monthLength_of_ne h]
    omega

/-! ## Years that begin in March -/

/-- The days from the first of March of year `0` to the first of March of `year`. -/
def marchStart (year : Int) : Int := 365 * year + year / 4 - year / 100 + year / 400

theorem marchStart_succ (year : Int) :
    marchStart (year + 1) = marchStart year + yearLength (year + 1) := by
  rw [yearLength_eq]
  unfold marchStart
  omega

/-- The days from the first of March to the first of the `month`-th month after it. -/
def marchOffset (month : Int) : Int := (153 * month + 2) / 5

theorem marchOffset_succ (year : Int) {month : Int} (h : 0 ≤ month ∧ month ≤ 10) :
    marchOffset (month + 1) = marchOffset month + monthLength year ((month + 2) % 12 + 1) := by
  obtain ⟨h₀, h₁⟩ := h
  rw [monthLength_of_ne (by omega)]
  interval_cases month <;> rfl

theorem monthLength_eq_marchOffset (year : Int) {month : Int} (h : 1 ≤ month ∧ month ≤ 12)
    (hfeb : month ≠ 2) :
    monthLength year month = marchOffset ((month + 9) % 12 + 1) - marchOffset ((month + 9) % 12) := by
  have hm : month = ((month + 9) % 12 + 2) % 12 + 1 := by omega
  rw [marchOffset_succ year (by omega), ← hm]
  omega

theorem monthFromMarch_eq_iff {day month : Int} :
    (5 * day + 2) / 153 = month ↔ marchOffset month ≤ day ∧ day < marchOffset (month + 1) := by
  unfold marchOffset
  omega

theorem marchStart_add_cycles (year cycles : Int) :
    marchStart (year + 400 * cycles) = marchStart year + cycles * cycleLength := by
  unfold marchStart cycleLength
  omega

theorem exists_marchStart_le (n : Int) :
    ∃ year, marchStart year ≤ n ∧ n < marchStart year + yearLength (year + 1) := by
  -- day by day in both directions, from the first of March of year `0`
  induction n using Int.induction_on with
  | zero => exact ⟨0, by decide⟩
  | succ n ih =>
    obtain ⟨year, h₁, h₂⟩ := ih
    by_cases h : (n : Int) + 1 < marchStart year + yearLength (year + 1)
    · exact ⟨year, by omega, h⟩
    · have hs := marchStart_succ year
      have hl := yearLength_mem (year + 1 + 1)
      exact ⟨year + 1, by omega, by omega⟩
  | pred n ih =>
    obtain ⟨year, h₁, h₂⟩ := ih
    by_cases h : marchStart year ≤ -(n : Int) - 1
    · exact ⟨year, h, by omega⟩
    · have hs := marchStart_succ (year - 1)
      have hl := yearLength_mem (year - 1 + 1)
      rw [Int.sub_add_cancel] at hs hl
      refine ⟨year - 1, by omega, ?_⟩
      rw [Int.sub_add_cancel]
      omega

/-- The century of a day of the cycle. The last day of a cycle would begin a fifth one. -/
theorem century_eq {century day n : Int} (hc : 0 ≤ century ∧ century ≤ 3) (h₀ : 0 ≤ day)
    (h₁ : day < 36524 ∨ day = 36524 ∧ century = 3) (hn : n = 36524 * century + day) :
    n / 36524 - n / 146096 = century := by
  omega

/-- The year of a day of the cycle: without the leap days before it, every year has 365 days. -/
theorem yearOfCycle_eq {year day n : Int} (hy : 0 ≤ year ∧ year < 400)
    (hd : 0 ≤ day ∧ day < yearLength (year + 1)) (hn : n = marchStart year + day) :
    (n - n / 1460 + n / 36524 - n / 146096) / 365 = year := by
  obtain ⟨c, q, k, hc, hq, hk, rfl⟩ : ∃ c q k : Int, (0 ≤ c ∧ c ≤ 3) ∧ (0 ≤ q ∧ q ≤ 24) ∧
      (0 ≤ k ∧ k ≤ 3) ∧ year = 100 * c + 4 * q + k :=
    ⟨year / 100, year % 100 / 4, year % 4, by omega, by omega, by omega, by omega⟩
  -- a 366th day ends every fourth year, but of the centuries only the last
  have hlast : day ≤ 364 ∨ day = 365 ∧ k = 3 ∧ (q < 24 ∨ c = 3) := by
    rw [yearLength_eq] at hd
    omega
  have hs : n = 36524 * c + (1461 * q + 365 * k + day) := by
    rw [hn]
    unfold marchStart
    omega
  have hcentury : n / 36524 - n / 146096 = c := century_eq hc (by omega) (by omega) hs
  -- one day of `n / 1460` may be counted early, but never on the first day of a year
  have hleap : n / 1460 = 25 * c + q + (24 * c + q + 365 * k + day) / 1460 := by omega
  have hrest : 0 ≤ day - (24 * c + q + 365 * k + day) / 1460 ∧
      day - (24 * c + q + 365 * k + day) / 1460 < 365 := by omega
  omega

namespace Date

variable {date : Date}

/-- The year beginning in March that holds a date. -/
def marchYear (date : Date) : Int := if date.month ≤ 2 then date.year - 1 else date.year

/-- The position of a date in that year, from `0`. -/
def marchDay (date : Date) : Int := marchOffset ((date.month + 9) % 12) + date.day - 1

/-- The date of a day, from `0`, of the year that begins in March of `year`. -/
def ofMarch (year day : Int) : Date :=
  let monthFromMarch := (5 * day + 2) / 153
  let month := if monthFromMarch < 10 then monthFromMarch + 3 else monthFromMarch - 9
  ⟨year + (if month ≤ 2 then 1 else 0), month, day - marchOffset monthFromMarch + 1⟩

theorem dayNumber_eq_march (h : 1 ≤ date.month ∧ date.month ≤ 12) :
    date.dayNumber = marchStart date.marchYear + date.marchDay - epochShift := by
  have hm : (date.month + 9).tmod 12 = (date.month + 9) % 12 :=
    Int.tmod_eq_emod_of_nonneg (by omega)
  have hd : (153 * ((date.month + 9) % 12) + 2).tdiv 5 = (153 * ((date.month + 9) % 12) + 2) / 5 :=
    Int.tdiv_eq_ediv_of_nonneg (by omega)
  simp only [dayNumber, hm, hd, marchDay]
  unfold marchStart marchYear marchOffset cycleLength
  omega

theorem ofDayNumber_march {year day : Int} (hd : 0 ≤ day ∧ day < yearLength (year + 1)) :
    ofDayNumber (marchStart year + day - epochShift) = ofMarch year day := by
  have hleap : yearLength (year % 400 + 1) = yearLength (year + 1) := by
    rw [yearLength_eq, yearLength_eq]
    omega
  have hstart : marchStart year = marchStart (year % 400) + year / 400 * cycleLength := by
    rw [← marchStart_add_cycles]
    congr 1
    omega
  have hmem : 0 ≤ marchStart (year % 400) + day ∧
      marchStart (year % 400) + day < cycleLength := by
    rw [← hleap, yearLength_eq] at hd
    unfold marchStart cycleLength
    omega
  have hdiv : (marchStart year + day) / cycleLength = year / 400 := by
    rw [hstart]
    unfold cycleLength at hmem ⊢
    omega
  have hmod : (marchStart year + day) % cycleLength = marchStart (year % 400) + day := by
    rw [hstart]
    unfold cycleLength at hmem ⊢
    omega
  have hyear := yearOfCycle_eq (by omega) (hleap.symm ▸ hd) rfl
  have hday : marchStart (year % 400) + day -
      (365 * (year % 400) + year % 400 / 4 - year % 400 / 100) = day := by
    unfold marchStart
    omega
  simp only [ofDayNumber, Int.sub_add_cancel, hdiv, hmod, hyear, hday, ofMarch, marchOffset]
  congr 1
  omega

/-! ## Dates of a year that begins in March -/

theorem IsValid.marchDay_mem (h : date.IsValid) :
    (marchOffset ((date.month + 9) % 12) ≤ date.marchDay ∧
      date.marchDay < marchOffset ((date.month + 9) % 12 + 1)) ∧
    0 ≤ date.marchDay ∧ date.marchDay < yearLength (date.marchYear + 1) := by
  obtain ⟨hm, hd⟩ := h
  have hl := yearLength_mem (date.marchYear + 1)
  unfold marchDay
  by_cases hfeb : date.month = 2
  · have hy : date.marchYear + 1 = date.year := by
      unfold marchYear
      omega
    rw [hfeb, monthLength_february] at hd
    rw [hy] at hl ⊢
    rw [hfeb]
    unfold marchOffset
    omega
  · rw [monthLength_eq_marchOffset _ hm hfeb] at hd
    have hlast : marchOffset ((date.month + 9) % 12 + 1) ≤ 337 := by
      unfold marchOffset
      omega
    have hfirst : 0 ≤ marchOffset ((date.month + 9) % 12) := by
      unfold marchOffset
      omega
    omega

theorem ofMarch_marchDay (h : date.IsValid) : ofMarch date.marchYear date.marchDay = date := by
  have hmonth := monthFromMarch_eq_iff.mpr h.marchDay_mem.1
  have hm := h.month_mem
  obtain ⟨year, month, day⟩ := date
  simp only [ofMarch, hmonth, mk.injEq]
  unfold marchYear marchDay
  dsimp only at hm ⊢
  omega

section OfMarch

variable {year day : Int}

theorem month_ofMarch (hd : 0 ≤ day ∧ day < yearLength (year + 1)) :
    ((ofMarch year day).month + 9) % 12 = (5 * day + 2) / 153 := by
  have hl := yearLength_mem (year + 1)
  simp only [ofMarch]
  omega

theorem ofMarch_isValid (hd : 0 ≤ day ∧ day < yearLength (year + 1)) :
    (ofMarch year day).IsValid := by
  have hl := yearLength_mem (year + 1)
  have hp := monthFromMarch_eq_iff.mp (rfl : (5 * day + 2) / 153 = (5 * day + 2) / 153)
  have hm : 1 ≤ (ofMarch year day).month ∧ (ofMarch year day).month ≤ 12 := by
    simp only [ofMarch]
    omega
  refine ⟨hm, ?_⟩
  by_cases hfeb : (ofMarch year day).month = 2
  · have hy : (ofMarch year day).year = year + 1 := by
      simp only [ofMarch] at hfeb ⊢
      omega
    rw [hfeb, hy, monthLength_february]
    simp only [ofMarch] at hfeb ⊢
    have h11 : (5 * day + 2) / 153 = 11 := by omega
    rw [h11] at hp ⊢
    unfold marchOffset at *
    omega
  · rw [monthLength_eq_marchOffset _ hm hfeb, month_ofMarch hd]
    simp only [ofMarch]
    omega

theorem marchYear_ofMarch (hd : 0 ≤ day ∧ day < yearLength (year + 1)) :
    (ofMarch year day).marchYear = year := by
  have hl := yearLength_mem (year + 1)
  simp only [marchYear, ofMarch]
  omega

theorem marchDay_ofMarch (hd : 0 ≤ day ∧ day < yearLength (year + 1)) :
    (ofMarch year day).marchDay = day := by
  rw [marchDay, month_ofMarch hd]
  simp only [ofMarch]
  omega

end OfMarch

/-! ## The conversions are inverse -/

theorem ofDayNumber_dayNumber (h : date.IsValid) : ofDayNumber date.dayNumber = date := by
  rw [dayNumber_eq_march h.month_mem, ofDayNumber_march h.marchDay_mem.2, ofMarch_marchDay h]

theorem exists_dayNumber_eq (n : Int) : ∃ date : Date, date.IsValid ∧ date.dayNumber = n := by
  obtain ⟨year, h₁, h₂⟩ := exists_marchStart_le (n + epochShift)
  have hd : 0 ≤ n + epochShift - marchStart year ∧
      n + epochShift - marchStart year < yearLength (year + 1) := by omega
  have hv := ofMarch_isValid hd
  refine ⟨ofMarch year (n + epochShift - marchStart year), hv, ?_⟩
  rw [dayNumber_eq_march hv.month_mem, marchYear_ofMarch hd, marchDay_ofMarch hd]
  omega

theorem ofDayNumber_isValid (n : Int) : (ofDayNumber n).IsValid := by
  obtain ⟨date, hv, rfl⟩ := exists_dayNumber_eq n
  rwa [ofDayNumber_dayNumber hv]

theorem dayNumber_ofDayNumber (n : Int) : (ofDayNumber n).dayNumber = n := by
  obtain ⟨date, hv, rfl⟩ := exists_dayNumber_eq n
  rw [ofDayNumber_dayNumber hv]

end Date

/-! ## First days -/

/-- The first day of the month `index % 12 + 1` of the year `index / 12`. -/
def monthStart (index : Int) : Int := Date.dayNumber ⟨index / 12, index % 12 + 1, 1⟩

theorem monthStart_eq_march (index : Int) : monthStart index =
    marchStart ((index - 2) / 12) + marchOffset ((index - 2) % 12) - epochShift := by
  have hm : 1 ≤ index % 12 + 1 ∧ index % 12 + 1 ≤ 12 := by omega
  have hy : (⟨index / 12, index % 12 + 1, 1⟩ : Date).marchYear = (index - 2) / 12 := by
    simp only [Date.marchYear]
    omega
  have hd : (⟨index / 12, index % 12 + 1, 1⟩ : Date).marchDay = marchOffset ((index - 2) % 12) := by
    simp only [Date.marchDay]
    rw [Int.add_sub_cancel]
    congr 1
    omega
  rw [monthStart, Date.dayNumber_eq_march hm, hy, hd]

theorem monthStart_succ (index : Int) :
    monthStart (index + 1) = monthStart index + monthLength (index / 12) (index % 12 + 1) := by
  rw [monthStart_eq_march, monthStart_eq_march]
  by_cases hfeb : index % 12 = 1
  · have hy : (index + 1 - 2) / 12 = (index - 2) / 12 + 1 := by omega
    have hl : (index - 2) / 12 + 1 = index / 12 := by omega
    have hp : (index + 1 - 2) % 12 = 0 ∧ (index - 2) % 12 = 11 := by omega
    have hm : index % 12 + 1 = 2 := by omega
    rw [hy, marchStart_succ, hl, hp.1, hp.2, hm, monthLength_february]
    unfold marchOffset
    omega
  · have hy : (index + 1 - 2) / 12 = (index - 2) / 12 := by omega
    have hp : (index + 1 - 2) % 12 = (index - 2) % 12 + 1 := by omega
    have hm : (index - 2) % 12 = (index % 12 + 1 + 9) % 12 := by omega
    rw [hy, hp, hm, monthLength_eq_marchOffset _ (by omega) (by omega)]
    omega

theorem monthStart_mono : Monotone monthStart := by
  refine monotone_int_of_le_succ fun index => ?_
  have hl := monthLength_mem (index / 12) (index % 12 + 1)
  rw [monthStart_succ]
  omega

theorem dayNumber_add_day (year month day : Int) :
    Date.dayNumber ⟨year, month, day⟩ = Date.dayNumber ⟨year, month, 1⟩ + (day - 1) := by
  simp only [Date.dayNumber]
  omega

theorem dayNumber_next_year (year : Int) :
    Date.dayNumber ⟨year + 1, 1, 1⟩ = Date.dayNumber ⟨year, 1, 1⟩ + yearLength year := by
  have hs := marchStart_succ (year - 1)
  have hm : (1 : Int) ≤ 1 ∧ (1 : Int) ≤ 12 := by decide
  rw [Int.sub_add_cancel] at hs
  rw [Date.dayNumber_eq_march hm, Date.dayNumber_eq_march hm]
  simp only [Date.marchYear, Date.marchDay]
  rw [if_pos (by decide), if_pos (by decide), Int.add_sub_cancel]
  omega

namespace Date

variable {date other : Date}

theorem dayNumber_eq_monthStart (h : 1 ≤ date.month ∧ date.month ≤ 12) :
    date.dayNumber = monthStart (12 * date.year + date.month - 1) + (date.day - 1) := by
  have hy : (12 * date.year + date.month - 1) / 12 = date.year := by omega
  have hm : (12 * date.year + date.month - 1) % 12 + 1 = date.month := by omega
  rw [monthStart, hy, hm, ← dayNumber_add_day]

theorem IsValid.monthStart_le (h : date.IsValid) :
    monthStart (12 * date.year + date.month - 1) ≤ date.dayNumber ∧
      date.dayNumber < monthStart (12 * date.year + date.month - 1 + 1) := by
  have hy : (12 * date.year + date.month - 1) / 12 = date.year := by have := h.month_mem; omega
  have hm : (12 * date.year + date.month - 1) % 12 + 1 = date.month := by have := h.month_mem; omega
  have hd := h.day_mem
  rw [monthStart_succ, hy, hm, dayNumber_eq_monthStart h.month_mem]
  omega

theorem IsValid.dayOfYear_mem (h : date.IsValid) :
    1 ≤ date.dayOfYear ∧ date.dayOfYear ≤ yearLength date.year := by
  have hm := h.month_mem
  have hle := monthStart_mono (show 12 * date.year ≤ 12 * date.year + date.month - 1 by omega)
  have hlt := monthStart_mono (show 12 * date.year + date.month - 1 + 1 ≤
    12 * (date.year + 1) by omega)
  have hfirst : ∀ year, monthStart (12 * year) = dayNumber ⟨year, 1, 1⟩ := by
    intro year
    rw [monthStart, Int.mul_ediv_cancel_left _ (by decide), Int.mul_emod_right]
    rfl
  rw [hfirst] at hle
  rw [hfirst, dayNumber_next_year] at hlt
  have hday := h.monthStart_le
  unfold dayOfYear
  omega

theorem dayNumber_dayOfYear (date : Date) :
    dayNumber ⟨date.year, 1, date.dayOfYear⟩ = date.dayNumber := by
  rw [dayNumber_add_day, dayOfYear]
  omega

theorem IsValid.dayNumber_lt_of_lt (h : date.IsValid) (h' : other.IsValid) (hlt : date < other) :
    date.dayNumber < other.dayNumber := by
  have hm := h.month_mem
  have hm' := h'.month_mem
  rw [lt_def] at hlt
  by_cases hi : 12 * date.year + date.month = 12 * other.year + other.month
  · rw [dayNumber_eq_monthStart hm, dayNumber_eq_monthStart hm', hi]
    omega
  · have hle := monthStart_mono (show 12 * date.year + date.month - 1 + 1 ≤
      12 * other.year + other.month - 1 by omega)
    have h₁ := h.monthStart_le
    have h₂ := h'.monthStart_le
    omega

theorem IsValid.lt_iff (h : date.IsValid) (h' : other.IsValid) :
    date < other ↔ date.dayNumber < other.dayNumber := by
  refine ⟨h.dayNumber_lt_of_lt h', fun hn => ?_⟩
  by_contra hlt
  rw [lt_def] at hlt
  by_cases heq : date = other
  · rw [heq] at hn
    omega
  · have hgt : other < date := by
      obtain ⟨year, month, day⟩ := date
      obtain ⟨year', month', day'⟩ := other
      rw [lt_def]
      simp only [mk.injEq] at heq hlt ⊢
      omega
    have := h'.dayNumber_lt_of_lt h hgt
    omega

/-- **Day numbers and dates correspond one to one, and in order.** -/
theorem dayNumber_correspondence :
    (∀ n, (ofDayNumber n).IsValid ∧ (ofDayNumber n).dayNumber = n) ∧
      (∀ date : Date, date.IsValid → ofDayNumber date.dayNumber = date) ∧
      ∀ date other : Date, date.IsValid → other.IsValid →
        (date < other ↔ date.dayNumber < other.dayNumber) :=
  ⟨fun n => ⟨ofDayNumber_isValid n, dayNumber_ofDayNumber n⟩,
    fun _ h => ofDayNumber_dayNumber h, fun _ _ h h' => h.lt_iff h'⟩

/-- The leap day of year `0` comes back, and March follows it. -/
theorem dayNumber_correspondence_leapDay :
    ofDayNumber (dayNumber ⟨0, 2, 29⟩) = ⟨0, 2, 29⟩ ∧ dayNumber ⟨0, 2, 29⟩ < dayNumber ⟨0, 3, 1⟩ := by
  have hleap : (⟨0, 2, 29⟩ : Date).IsValid := ⟨by decide, by decide⟩
  have hmarch : (⟨0, 3, 1⟩ : Date).IsValid := ⟨by decide, by decide⟩
  have hlt : (⟨0, 2, 29⟩ : Date) < ⟨0, 3, 1⟩ := Or.inr ⟨rfl, Or.inl (by decide)⟩
  exact ⟨dayNumber_correspondence.2.1 _ hleap,
    (dayNumber_correspondence.2.2 _ _ hleap hmarch).mp hlt⟩

end Date

end Almanac
