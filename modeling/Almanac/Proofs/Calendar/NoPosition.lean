import Mathlib
import Almanac.Proofs.Checked.Position

/-!
# Units without a position

A unit has a position in each unit that contains it. There are two exceptions: era `0` has no first
day to count from, so only years are counted in it, and counts of the time of day may leave the
64-bit integers.

* `LocalTime.LacksPosition`: the two exceptions.
* `LocalTime.positionWithin?_eq_none_iff`: there is no other.
* **`Calendar.ordinality_defined`**: when there is no position, how this is reported, and that no
  step overflows.
-/

namespace Almanac

namespace LocalTime

variable {weeks : WeekNumbering} {reading : ℤ} {small large : TimeUnit}

/-- Why a unit has no position in a unit that contains it: it is not a year, and the large one is
era `0`; or more units of the time of day have begun since the large one did than there are 64-bit
integers from `1` on. -/
def LacksPosition (weeks : WeekNumbering) (l : LocalTime) (small large : TimeUnit) : Prop :=
  (large = .era ∧ l.date.year < 1 ∧ small ≠ .year) ∨
    small.isClockUnit = true ∧ ∃ b, beginning? weeks l.reading large = some b ∧
      Binary64.int64Max < (l.reading - b) * nanosPerSecond / nanosOf small + 1

theorem positionWithin?_eq_none_iff_firstDay? (hclock : small.isClockUnit = false)
    (hcontains : large.contains small = true) (hyear : small ≠ .year) :
    (ofReading reading).positionWithin? weeks small large = none ↔
      (ofReading reading).firstDay? weeks large = none := by
  by_cases hnumbered : small.IsNumberedIn large
  · rw [positionWithin?_numbered hnumbered, Option.map_eq_none_iff]
  · obtain ⟨measure, n, -, -, hposition⟩ :=
      exists_measure weeks hclock hcontains hnumbered hyear
    rw [hposition, Option.map_eq_none_iff]

/-- **There is no other reason.** -/
theorem positionWithin?_eq_none_iff (hcontains : large.contains small = true) :
    (ofReading reading).positionWithin? weeks small large = none ↔
      (ofReading reading).LacksPosition weeks small large := by
  have hreading : (ofReading reading).reading = reading := reading_eq reading
  have hera : beginning? weeks reading large = none ↔
      large = .era ∧ (ofReading reading).date.year < 1 := beginning?_eq_none_iff
  unfold LacksPosition
  rw [hreading]
  by_cases hclock : small.isClockUnit = true
  · have hyear : small ≠ .year := by
      rintro rfl
      cases hclock
    rw [positionWithin?_clock _ hclock,
      timeWithin?_eq hclock (large.ne_nanosecond_of_contains hcontains)]
    cases hb : beginning? weeks reading large with
    | none =>
      obtain ⟨hlarge, hbefore⟩ := hera.mp hb
      exact iff_of_true rfl (Or.inl ⟨hlarge, hbefore, hyear⟩)
    | some b =>
      have hnot : ¬ (large = .era ∧ (ofReading reading).date.year < 1 ∧ small ≠ .year) :=
        fun h => absurd (hera.mpr ⟨h.1, h.2.1⟩) (by rw [hb]; nofun)
      rw [or_iff_right hnot, Option.map_some, Option.filter_some]
      simp only [hclock, decide_eq_true_eq, Option.some.injEq, exists_eq_left', true_and,
        ite_eq_right_iff, reduceCtorEq, imp_false, not_le]
  · have hnot : ¬ (small.isClockUnit = true ∧ ∃ b, beginning? weeks reading large = some b ∧
        Binary64.int64Max < (reading - b) * nanosPerSecond / nanosOf small + 1) :=
      fun h => hclock h.1
    rw [or_iff_left hnot]
    rw [Bool.not_eq_true] at hclock
    by_cases hyear : small = .year
    · subst hyear
      exact iff_of_false nofun fun h => h.2.2 rfl
    · rw [positionWithin?_eq_none_iff_firstDay? hclock hcontains hyear, ← and_assoc, ← hera,
        beginning?_of_not_clock (large.not_clock_of_contains hclock hcontains),
        Option.map_eq_none_iff, and_iff_left hyear]

end LocalTime

namespace Calendar

variable (cal : Calendar) (small large : TimeUnit) (n : ℤ)

theorem ordinality?_eq_none_iff : cal.ordinality? small large (.ofSeconds n) = none ↔
    large.contains small = false ∨
      (cal.localTime (.ofSeconds n)).LacksPosition cal.weeks small large := by
  rw [ordinality?, cal.localTime_wholeSecond]
  split
  · next hcontains =>
    rw [LocalTime.positionWithin?_eq_none_iff hcontains, hcontains, or_iff_right (by decide)]
  · next hcontains => exact iff_of_true rfl (Or.inl (Bool.not_eq_true _ ▸ hcontains))

theorem ordinality_eq : cal.ordinality small large (.ofSeconds n) =
    if large.contains small = false then .error (.notContained small large)
    else (cal.ordinality? small large (.ofSeconds n)).elim
      (.error (.noPosition small large (.ofSeconds n))) .ok := by
  rw [ordinality]
  cases large.contains small with
  | false => rfl
  | true =>
    cases cal.ordinality? small large (.ofSeconds n) <;> rfl

/-- **A unit has no position only if the units do not nest, in era `0`, and if it is too large.** In
the first case the units are reported, in the others the instant, and else the position. In years of
allowed size no step to it overflows, but for the last ones, which report it. -/
theorem ordinality_defined :
    (cal.ordinality? small large (.ofSeconds n) = none ↔ large.contains small = false ∨
      (cal.localTime (.ofSeconds n)).LacksPosition cal.weeks small large) ∧
    (cal.ordinality small large (.ofSeconds n) = .error (.notContained small large) ↔
      large.contains small = false) ∧
    (cal.ordinality small large (.ofSeconds n) =
        .error (.noPosition small large (.ofSeconds n)) ↔
      large.contains small = true ∧
        (cal.localTime (.ofSeconds n)).LacksPosition cal.weeks small large) ∧
    (∀ position, cal.ordinality small large (.ofSeconds n) = .ok position ↔
      cal.ordinality? small large (.ofSeconds n) = some position) ∧
    (IsYearSized (cal.localTime (.ofSeconds n)).date.year →
      Checked.ordinality? cal small large (.ofSeconds n) =
        .value (cal.ordinality? small large (.ofSeconds n))) := by
  have hnone := cal.ordinality?_eq_none_iff small large n
  have heq := cal.ordinality_eq small large n
  refine ⟨hnone, ?_, ?_, ?_, ?_⟩
  · rw [heq]
    split
    · next hcontains => exact iff_of_true rfl hcontains
    · next hcontains =>
      refine iff_of_false ?_ hcontains
      cases cal.ordinality? small large (.ofSeconds n) <;> nofun
  · rw [heq]
    split
    · next hcontains => exact iff_of_false nofun fun h => absurd (h.1.symm.trans hcontains) nofun
    · next hcontains =>
      rw [or_iff_right hcontains] at hnone
      rw [and_iff_right (Bool.not_eq_false _ ▸ hcontains), ← hnone]
      cases cal.ordinality? small large (.ofSeconds n) with
      | none => exact iff_of_true rfl rfl
      | some _ => exact iff_of_false nofun nofun
  · intro position
    rw [heq]
    split
    · next hcontains =>
      rw [hnone.mpr (Or.inl hcontains)]
      exact iff_of_false nofun nofun
    · cases cal.ordinality? small large (.ofSeconds n) with
      | none => exact iff_of_false nofun nofun
      | some _ => rw [Option.elim_some, Except.ok.injEq, Option.some.injEq]
  · intro hyear
    rw [cal.localTime_wholeSecond] at hyear
    have hr := reading_mem hyear
    exact Checked.ordinality?_eq small large (Instant.secondsAndNanos_ofSeconds_mem n).2 (by omega)

/-- The nanoseconds of the era leave the 64-bit integers in 293. In 2024 their position is reported,
with no step that overflows before. -/
theorem ordinality_defined_nanosecond :
    IsYearSized (standard.localTime (.ofSeconds 1704715200)).date.year ∧
      standard.ordinality .nanosecond .era (.ofSeconds 1704715200) =
        .error (.noPosition .nanosecond .era (.ofSeconds 1704715200)) ∧
      Checked.ordinality? standard .nanosecond .era (.ofSeconds 1704715200) = .value none := by
  obtain ⟨hnone, -, hreported, -, hchecked⟩ :=
    ordinality_defined standard .nanosecond .era 1704715200
  have hyear : IsYearSized (standard.localTime (.ofSeconds 1704715200)).date.year := by
    decide +kernel
  have hposition : standard.ordinality? .nanosecond .era (.ofSeconds 1704715200) = none := by
    decide +kernel
  have hlacks := (hnone.mp hposition).resolve_left (by decide)
  exact ⟨hyear, hreported.mpr ⟨by decide, hlacks⟩, (hchecked hyear).trans (by rw [hposition])⟩

end Calendar

end Almanac
