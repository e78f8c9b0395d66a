import Mathlib
import Almanac.Proofs.Calendar.Cycle

/-!
# Steps of months

Years and quarters are steps of twelve and of three months. A step of months moves the number of the
month, keeps the time of day, and holds the day to the month that it comes to. Two steps are one step
of their sum, but for what the month between them takes from the day.

* `LocalTime.monthsLater`: the same time some months later.
* `LocalTime.monthsLater_monthsLater`: two steps as one.
* `LocalTime.MonthsOn`: the local times before and after a step of months.
* `Calendar.add?_month`: a step of months from a reading.
* **`Calendar.add?_carries_months`**: years and quarters as months, one step, and two steps.
-/

namespace Almanac

theorem foldMonth_add_years (year month count : ℤ) :
    foldMonth (year + count) month = foldMonth year (month + 12 * count) := by
  simp only [foldMonth, Prod.mk.injEq]
  omega

namespace LocalTime

/-- The same time some months later, on the last day of a month that is too short for the day. -/
def monthsLater (l : LocalTime) (months : ℤ) : LocalTime :=
  let index := l.date.monthIndex + months
  l.onDay (monthStart index +
    (min l.date.day (Almanac.monthLength (index / 12) (index % 12 + 1)) - 1))

/-- The local times before and after a step of months. -/
structure MonthsOn (months : ℤ) (l l' : LocalTime) : Prop where
  monthIndex_eq : l'.date.monthIndex = l.date.monthIndex + months
  day_eq : l'.date.day = min l.date.day l'.monthLength
  sameTime : l.SameTime l'

variable {l : LocalTime}

section Day

variable (hday : 1 ≤ l.date.day)
include hday

theorem date_monthsLater (months : ℤ) : (l.monthsLater months).date =
    ⟨(l.date.monthIndex + months) / 12, (l.date.monthIndex + months) % 12 + 1,
      min l.date.day (Almanac.monthLength ((l.date.monthIndex + months) / 12)
        ((l.date.monthIndex + months) % 12 + 1))⟩ := by
  have hlength := monthLength_mem ((l.date.monthIndex + months) / 12)
    ((l.date.monthIndex + months) % 12 + 1)
  exact Date.ofDayNumber_monthStart_add ⟨by omega, min_le_right _ _⟩

theorem monthsOn_monthsLater (months : ℤ) : l.MonthsOn months (l.monthsLater months) := by
  have hdate := date_monthsLater hday months
  refine ⟨?_, ?_, rfl, rfl⟩
  · rw [hdate]
    simp only [Date.monthIndex]
    omega
  · rw [monthLength, hdate]

theorem monthsOn_monthsLater_monthsLater (months more : ℤ) :
    ((l.monthsLater months).monthsLater more).date.monthIndex =
        l.date.monthIndex + (months + more) ∧
      ((l.monthsLater months).monthsLater more).date.day =
        min (min l.date.day (l.monthsLater months).monthLength)
          ((l.monthsLater months).monthsLater more).monthLength := by
  have hfirst := monthsOn_monthsLater hday months
  have hlength := monthLength_mem (l.monthsLater months).date.year (l.monthsLater months).date.month
  have hday' : 1 ≤ (l.monthsLater months).date.day := by
    rw [hfirst.day_eq, monthLength]
    omega
  have hsecond := monthsOn_monthsLater hday' more
  exact ⟨by rw [hsecond.monthIndex_eq, hfirst.monthIndex_eq, add_assoc],
    by rw [hsecond.day_eq, ← hfirst.day_eq]⟩

/-- **Two steps are one, unless the month between them is too short for the day.** -/
theorem monthsLater_monthsLater {months : ℤ} (more : ℤ)
    (hkept : l.date.day ≤ (l.monthsLater months).monthLength) :
    (l.monthsLater months).monthsLater more = l.monthsLater (months + more) := by
  have hfirst := monthsOn_monthsLater hday months
  have hsame : (l.monthsLater months).date.day = l.date.day := by
    rw [hfirst.day_eq, min_eq_left hkept]
  rw [monthsLater, hsame, hfirst.monthIndex_eq, add_assoc]
  rfl

end Day

namespace ShownAt

variable {reading : ℤ} (hl : l.ShownAt reading)
include hl

theorem reading_eq : l.reading = reading := by
  obtain ⟨rfl, -⟩ := hl
  exact LocalTime.reading_eq reading

theorem monthsLater_zero : l.monthsLater 0 = l := by
  have hmonth := hl.isValid.month_mem
  have hday : l.date.dayNumber = _ := Date.dayNumber_eq_monthStart hmonth
  have hyear : (l.date.monthIndex + 0) / 12 = l.date.year ∧
      (l.date.monthIndex + 0) % 12 + 1 = l.date.month := by
    unfold Date.monthIndex
    omega
  have hnumber : l.date.dayNumber = l.dayNumber := hl.eq ▸ Date.dayNumber_ofDayNumber _
  have hkept : min l.date.day (Almanac.monthLength l.date.year l.date.month) = l.date.day :=
    min_eq_left hl.day_mem.2
  rw [LocalTime.monthsLater, hyear.1, hyear.2, hkept, add_zero, Date.monthIndex, ← hday, hnumber,
    ← hl.eq]
  rfl

theorem monthsLater {months : ℤ} (hyear : IsYearSized ((l.date.monthIndex + months) / 12)) :
    (l.monthsLater months).ShownAt (l.monthsLater months).reading := by
  refine ⟨?_, ?_⟩
  · obtain ⟨rfl, -⟩ := hl
    exact ofReading_onDay reading _
  · rw [date_monthsLater hl.day_mem.1]
    exact hyear

end ShownAt

end LocalTime

namespace Calendar

/-! ## Years and quarters -/

variable (cal : Calendar) (t : Instant) {amount : ℤ}

theorem carry?_year : cal.carry? .year amount t = cal.carry? .month (12 * amount) t := by
  simp only [carry?, moveToMonth?, foldMonth_add_years]

theorem add?_eq_of_carry? {unit other : TimeUnit} {count : ℤ} (hzero : amount = 0 ↔ count = 0)
    (hamount : IsFieldSized amount) (hcount : IsFieldSized count)
    (hcarry : cal.carry? unit amount t = cal.carry? other count t) :
    cal.add? unit amount t false = cal.add? other count t false := by
  rw [add?, add?, if_pos hamount, if_pos hcount, if_neg Bool.false_ne_true,
    if_neg Bool.false_ne_true, hcarry]
  simp only [hzero]

/-! ## Months -/

section Fixed

variable {cal} {offset : FixedOffset} (hzone : cal.zone = .fixed offset) {reading : ℤ}
  {l : LocalTime} (hl : l.ShownAt reading)
include hzone hl

/-- A step of months leads to the reading some months later, if its year is of allowed size. An
amount that is too large for a field leads to no such year. -/
theorem add?_month (amount : ℤ) :
    cal.add? .month amount (offset.instantAt reading) false =
      if IsYearSized ((l.date.monthIndex + amount) / 12) then
        some (offset.instantAt (l.monthsLater amount).reading)
      else none := by
  have hmonth := hl.isValid.month_mem
  have hyear := hl.isYearSized
  by_cases hzero : amount = 0
  · have hstay : (l.date.monthIndex + 0) / 12 = l.date.year := by
      unfold Date.monthIndex
      omega
    rw [add?, if_pos hzero, hzero, hstay, if_pos hyear, hl.monthsLater_zero, hl.reading_eq]
  · have hindex : 12 * l.date.year + (l.date.month + amount) - 1 = l.date.monthIndex + amount := by
      unfold Date.monthIndex
      ring
    have hsized (hyear' : IsYearSized ((l.date.monthIndex + amount) / 12)) : IsFieldSized amount := by
      unfold Date.monthIndex at hyear'
      unfold IsYearSized largestYear at hyear hyear'
      unfold IsFieldSized largestField
      omega
    rw [add?, if_neg hzero, if_neg Bool.false_ne_true]
    simp only [carry?, localTime_shownAt hzone hl, moveToMonth?_eq cal l hindex]
    split
    · split
      · next hyear' =>
        have hlt := (hl.monthsLater hyear').reading_lt
        have hexact := offset.isExact_of_lt (show (l.monthsLater amount).reading.natAbs < _ by omega)
        obtain ⟨rfl, -⟩ := hl
        exact congrArg some (moveToDay_fixed hzone hexact)
      · rfl
    · next hlarge => rw [if_neg (hlarge ∘ hsized)]

theorem add?_month_eq_none {amount : ℤ} :
    cal.add? .month amount (offset.instantAt reading) false = none ↔
      ¬ IsYearSized ((l.date.monthIndex + amount) / 12) := by
  rw [add?_month hzone hl]
  split <;> simp [*]

theorem shownAt_of_add?_month {amount : ℤ} {t' : Instant}
    (h : cal.add? .month amount (offset.instantAt reading) false = some t') :
    (l.monthsLater amount).ShownAt (l.monthsLater amount).reading ∧
      t' = offset.instantAt (l.monthsLater amount).reading := by
  rw [add?_month hzone hl] at h
  split at h
  · next hyear => exact ⟨hl.monthsLater hyear, (Option.some.inj h).symm⟩
  · cases h

end Fixed

/-- **Years and quarters are carried as months, and months step by their number.** In a fixed zone
a step of months leads so many months on, keeps the time of day, and holds the day to the month; it
fails only if the year that it comes to is too large. A second step comes to the month of the sum,
on a day that the month between them has too, and is the step of the sum if that month has the day. -/
theorem add?_carries_months (cal : Calendar) :
    (∀ t amount, IsFieldSized amount →
      (IsFieldSized (12 * amount) →
        cal.add? .year amount t false = cal.add? .month (12 * amount) t false) ∧
      (IsFieldSized (3 * amount) →
        cal.add? .quarter amount t false = cal.add? .month (3 * amount) t false)) ∧
    ∀ offset, cal.zone = .fixed offset →
      ∀ n l, cal.localTime (.ofSeconds n) = l → IsYearSized l.date.year → ∀ amount,
        (cal.add? .month amount (.ofSeconds n) false = none ↔
          ¬ IsYearSized ((l.date.monthIndex + amount) / 12)) ∧
        ∀ t₁ l₁, cal.add? .month amount (.ofSeconds n) false = some t₁ → cal.localTime t₁ = l₁ →
          l.MonthsOn amount l₁ ∧ ∀ more,
            (cal.add? .month more t₁ false = none ↔
              cal.add? .month (amount + more) (.ofSeconds n) false = none) ∧
            (∀ t₂ l₂, cal.add? .month more t₁ false = some t₂ → cal.localTime t₂ = l₂ →
              l₂.date.monthIndex = l.date.monthIndex + (amount + more) ∧
              l₂.date.day = min (min l.date.day l₁.monthLength) l₂.monthLength ∧ l.SameTime l₂) ∧
            (l.date.day ≤ l₁.monthLength →
              cal.add? .month more t₁ false =
                cal.add? .month (amount + more) (.ofSeconds n) false) := by
  refine ⟨fun t amount hamount => ⟨fun hmonths => ?_, fun hmonths => ?_⟩, ?_⟩
  · exact cal.add?_eq_of_carry? t (by omega) hamount hmonths (cal.carry?_year t)
  · exact cal.add?_eq_of_carry? t (by omega) hamount hmonths rfl
  rintro offset hzone n l rfl hyear amount
  have hl := shownAt_ofSeconds hzone hyear
  generalize cal.localTime (.ofSeconds n) = l at *
  rw [offset.ofSeconds_eq_instantAt n]
  refine ⟨add?_month_eq_none hzone hl, ?_⟩
  rintro t₁ l₁ h rfl
  obtain ⟨hl₁, rfl⟩ := shownAt_of_add?_month hzone hl h
  rw [localTime_shownAt hzone hl₁]
  have hfirst := LocalTime.monthsOn_monthsLater hl.day_mem.1 amount
  refine ⟨hfirst, fun more => ⟨?_, ?_, fun hkept => ?_⟩⟩
  · rw [add?_month_eq_none hzone hl, add?_month_eq_none hzone hl₁, hfirst.monthIndex_eq, add_assoc]
  · rintro t₂ l₂ h₂ rfl
    obtain ⟨hl₂, rfl⟩ := shownAt_of_add?_month hzone hl₁ h₂
    rw [localTime_shownAt hzone hl₂]
    obtain ⟨hindex, hday⟩ := LocalTime.monthsOn_monthsLater_monthsLater hl.day_mem.1 amount more
    exact ⟨hindex, hday, rfl, rfl⟩
  · rw [add?_month hzone hl₁, add?_month hzone hl, hfirst.monthIndex_eq, add_assoc,
      LocalTime.monthsLater_monthsLater hl.day_mem.1 more hkept]

/-- February holds the day that two steps of a month bring to March, and one step of two does not. -/
theorem add?_carries_months_leapDay :
    standard.add? .month 1 (.ofSeconds 1706702400) false = some (.ofSeconds 1709208000) ∧
      standard.add? .month 1 (.ofSeconds 1709208000) false = some (.ofSeconds 1711713600) ∧
      (standard.localTime (.ofSeconds 1711713600)).date.day = 29 ∧
      standard.add? .month 2 (.ofSeconds 1706702400) false = some (.ofSeconds 1711886400) ∧
      (standard.localTime (.ofSeconds 1711886400)).date.day = 31 ∧
      standard.add? .year 1 (.ofSeconds 1706702400) false =
        standard.add? .month 12 (.ofSeconds 1706702400) false := by
  have hfirst : standard.add? .month 1 (.ofSeconds 1706702400) false =
      some (.ofSeconds 1709208000) := by decide +kernel
  have hsecond : standard.add? .month 1 (.ofSeconds 1709208000) false =
      some (.ofSeconds 1711713600) := by decide +kernel
  have hboth : standard.add? .month 2 (.ofSeconds 1706702400) false =
      some (.ofSeconds 1711886400) := by decide +kernel
  have hdate : (standard.localTime (.ofSeconds 1706702400)).date = ⟨2024, 1, 31⟩ := by decide +kernel
  have hlength : (standard.localTime (.ofSeconds 1709208000)).monthLength = 29 := by decide +kernel
  have hlength' : (standard.localTime (.ofSeconds 1711713600)).monthLength = 31 := by decide +kernel
  have hlength'' : (standard.localTime (.ofSeconds 1711886400)).monthLength = 31 := by decide +kernel
  obtain ⟨hyears, hmonths⟩ := add?_carries_months standard
  have hmonths := hmonths _ rfl 1706702400 _ rfl (by rw [hdate]; decide)
  refine ⟨hfirst, hsecond, ?_, hboth, ?_, (hyears _ 1 (by decide)).1 (by decide)⟩
  · rw [(((hmonths 1).2 _ _ hfirst rfl).2 1).2.1 _ _ hsecond rfl |>.2.1, hdate, hlength, hlength']
    rfl
  · rw [((hmonths 2).2 _ _ hboth rfl).1.day_eq, hdate, hlength'']
    rfl

end Calendar

end Almanac
