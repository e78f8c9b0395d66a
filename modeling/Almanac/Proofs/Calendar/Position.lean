import Mathlib
import Almanac.Proofs.Calendar.Tiling
import Almanac.Calendar.Position

/-!
# Positions count from the start

Starts are found on the calendar and positions from remainders of the date and the time of day, but
both are about the same beginning: where the instances of a small unit have one length, a position
counts the lengths since the start of the large unit.

* `Instant.IsInner`: instants more than three years inside the signed 64-bit seconds.
* **`LocalTime.beginning?_mem_int64`**: around such an instant, readings and beginnings fit 64 bits.
* `TimeUnit.CountedIn`: the small units whose instances have one length inside a large unit.
* `LocalTime.positionWithin?_eq`: positions count lengths from the beginning.
* `Calendar.ordinality?_fixed`: positions of dates are those of the whole second.
* **`Calendar.ordinality?_eq_floor`**: positions count lengths from the start.
* `Calendar.ordinality?_beyond_exact`: far out starts are rounded, and positions are not.
-/

namespace Almanac

/-- The second of an instant lies more than three years inside the signed 64-bit seconds. -/
def Instant.IsInner (t : Instant) : Prop := t.secondsAndNanos.1.natAbs ≤ 2 ^ 63 - 10 ^ 8

instance (t : Instant) : Decidable t.IsInner := inferInstanceAs (Decidable (_ ≤ _))

/-- The instances of a unit inside a large unit all have a length, in nanoseconds. -/
inductive TimeUnit.CountedIn : TimeUnit → TimeUnit → ℤ → Prop where
  | clock {small large : TimeUnit} (h : small.isClockUnit = true) :
      CountedIn small large (LocalTime.nanosOf small)
  | day {large : TimeUnit} : CountedIn .day large nanosPerDay
  | weekday {large : TimeUnit} (h : large = .weekOfMonth ∨ large = .weekOfYear) :
      CountedIn .weekday large nanosPerDay
  | week : CountedIn .weekOfYear .yearForWeekOfYear (7 * nanosPerDay)

theorem TimeUnit.not_clock_of_contains_day : ∀ large : TimeUnit, large.contains .day = true →
    large.isClockUnit = false := by decide

namespace LocalTime

variable {weeks : WeekNumbering} {reading day : ℤ} {unit small large : TimeUnit}

/-- Beginnings other than that of the era are less than 372 days back. -/
theorem firstDay?_mem (hclock : unit.isClockUnit = false)
    (hday : (ofReading reading).firstDay? weeks unit = some day) :
    unit = .era ∧ day = eraStart ∨
      day * secondsPerDay ≤ reading ∧ reading < (day + 372) * secondsPerDay := by
  cases hT : unit.tiling? weeks with
  | some T =>
    obtain ⟨k, hk⟩ := T.exists_covers reading
    obtain ⟨first, hfirst, hstart⟩ := firstDay?_of_covers hclock hT hk
    obtain rfl := Option.some.inj (hday.symm.trans hfirst)
    have hs := T.succ_le k
    obtain ⟨h₁, h₂⟩ := hk
    rw [hstart] at h₁ hs
    rw [add_mul]
    exact Or.inr ⟨h₁, by omega⟩
  | none =>
    cases unit with
    | era =>
      simp only [firstDay?, Option.ite_none_left_eq_some] at hday
      exact Or.inl ⟨rfl, (Option.some.inj hday.2).symm⟩
    | weekdayOrdinal =>
      obtain rfl := Option.some.inj hday
      refine Or.inr ?_
      change reading / secondsPerDay * secondsPerDay ≤ reading ∧
        reading < (reading / secondsPerDay + 372) * secondsPerDay
      unfold secondsPerDay
      omega
    | hour | minute | second | nanosecond => cases hclock
    | _ => cases hT

theorem beginning?_mem {b : ℤ} (hb : beginning? weeks reading unit = some b) :
    unit = .era ∧ b = eraStart * secondsPerDay ∨
      b ≤ reading ∧ reading < b + 372 * secondsPerDay := by
  by_cases hclock : unit.isClockUnit = false
  · rw [beginning?_of_not_clock hclock, Option.map_eq_some_iff] at hb
    obtain ⟨day, hday, rfl⟩ := hb
    obtain ⟨rfl, rfl⟩ | hmem := firstDay?_mem hclock hday
    · exact Or.inl ⟨rfl, rfl⟩
    · rw [add_mul] at hmem
      exact Or.inr hmem
  · unfold secondsPerDay
    cases unit with
    | hour | minute | second | nanosecond =>
      obtain rfl := Option.some.inj hb
      omega
    | _ => exact absurd rfl hclock

/-- **Around an inner instant, readings and beginnings fit 64 bits**, also a day before and after them.
The reading of the instant itself is the beginning of its second. -/
theorem beginning?_mem_int64 {t : Instant} (ht : t.IsInner) (offset : FixedOffset) {b : ℤ}
    (hb : beginning? weeks (t.secondsAndNanos.1 + offset.seconds) unit = some b) :
    Binary64.int64Min ≤ b - secondsPerDay ∧ b + secondsPerDay ≤ Binary64.int64Max := by
  have ho := offset.within_day
  have hmem := beginning?_mem hb
  unfold Instant.IsInner at ht
  unfold Binary64.int64Min Binary64.int64Max secondsPerDay eraStart at *
  omega

theorem dayWithin?_eq_firstDay? (hclock : unit.isClockUnit = false) :
    (ofReading reading).dayWithin? weeks unit = ((ofReading reading).firstDay? weeks unit).map
      fun day => (ofReading reading).dayNumber - day + 1 := by
  cases unit with
  | era =>
    simp only [dayWithin?, firstDay?]
    split <;> rfl
  | year =>
    have hdate : (ofReading reading).date.dayNumber = (ofReading reading).dayNumber :=
      Date.dayNumber_ofDayNumber _
    simp only [dayWithin?, firstDay?, Option.map_some, Date.dayOfYear, hdate]
  | yearForWeekOfYear | quarter => rfl
  | month | day | weekday | weekdayOrdinal =>
    simp only [dayWithin?, firstDay?, Option.map_some]
    congr 1
    omega
  | weekOfMonth | weekOfYear =>
    simp only [dayWithin?, firstDay?, Option.map_some, WeekNumbering.startOfWeek, weekday]
    congr 1
    omega
  | hour | minute | second | nanosecond => cases hclock

theorem elapsed?_eq_beginning? (hlarge : large ≠ .nanosecond) :
    ((ofReading reading).elapsed? weeks large).map (fun e => e.1 * nanosPerDay + e.2) =
      (beginning? weeks reading large).map fun b => (reading - b) * nanosPerSecond := by
  by_cases hclock : large.isClockUnit = false
  · rw [beginning?_of_not_clock hclock]
    have helapsed : (ofReading reading).elapsed? weeks large =
        ((ofReading reading).dayWithin? weeks large).map
          fun day => (day - 1, (ofReading reading).secondOfDay * nanosPerSecond) := by
      cases large with
      | hour | minute | second | nanosecond => cases hclock
      | _ => simp only [elapsed?, ofReading, add_zero]
    rw [helapsed, dayWithin?_eq_firstDay? hclock]
    simp only [Option.map_map]
    congr 1
    funext day
    have hr := reading_eq reading
    simp only [Function.comp_apply, nanosPerDay]
    unfold secondsPerDay nanosPerSecond at *
    omega
  · cases large with
    | hour | minute =>
      simp only [elapsed?, beginning?, ofReading, nanosOf, Option.map_some]
      unfold secondsPerDay nanosPerSecond
      congr 1
      omega
    | second =>
      simp only [elapsed?, beginning?, ofReading, Option.map_some, sub_self, zero_mul, add_zero]
    | nanosecond => exact absurd rfl hlarge
    | _ => exact absurd rfl hclock

theorem nanosOf_dvd (h : unit.isClockUnit = true) : nanosOf unit ∣ nanosPerDay := by
  cases unit with
  | hour | minute | second | nanosecond => decide
  | _ => cases h

theorem timeWithin?_eq (hsmall : small.isClockUnit = true) (hlarge : large ≠ .nanosecond) :
    (ofReading reading).timeWithin? weeks small large =
      ((beginning? weeks reading large).map
        fun b => (reading - b) * nanosPerSecond / nanosOf small + 1).filter
          (· ≤ Binary64.int64Max) := by
  have hsplit : ∀ days nanos : ℤ, days * (nanosPerDay / nanosOf small) + nanos / nanosOf small =
      (days * nanosPerDay + nanos) / nanosOf small := by
    intro days nanos
    have hd := nanosOf_dvd hsmall
    rw [Int.add_ediv_of_dvd_left (hd.mul_left days), Int.mul_ediv_assoc days hd]
  have htotal : ((ofReading reading).elapsed? weeks large).map _ = _ :=
    elapsed?_eq_beginning? hlarge
  unfold timeWithin?
  cases he : (ofReading reading).elapsed? weeks large with
  | none =>
    rw [he, Option.map_none, eq_comm, Option.map_eq_none_iff] at htotal
    rw [htotal]
    rfl
  | some e =>
    obtain ⟨b, hb, hbtotal⟩ : ∃ b, beginning? weeks reading large = some b ∧
        (reading - b) * nanosPerSecond = e.1 * nanosPerDay + e.2 := by
      rw [he, Option.map_some, eq_comm, Option.map_eq_some_iff] at htotal
      exact htotal
    rw [hb, Option.map_some, Option.filter_some, hbtotal, ← hsplit]
    simp only [decide_eq_true_eq]
    rfl

theorem dayWithin?_eq_beginning? (hclock : large.isClockUnit = false)
    (hr : reading.natAbs ≤ 2 ^ 54) : (ofReading reading).dayWithin? weeks large =
      ((beginning? weeks reading large).map
        fun b => (reading - b) * nanosPerSecond / nanosPerDay + 1).filter
          (· ≤ Binary64.int64Max) := by
  rw [dayWithin?_eq_firstDay? hclock, beginning?_of_not_clock hclock]
  cases hday : (ofReading reading).firstDay? weeks large with
  | none => rfl
  | some day =>
    have hmem := firstDay?_mem hclock hday
    have heq : (reading - day * secondsPerDay) * nanosPerSecond / nanosPerDay =
        reading / secondsPerDay - day := by
      unfold nanosPerDay nanosPerSecond secondsPerDay
      omega
    have hle : reading / secondsPerDay - day + 1 ≤ Binary64.int64Max := by
      unfold Binary64.int64Max
      unfold secondsPerDay eraStart at *
      omega
    simp only [Option.map_some, Option.filter_some, heq, decide_eq_true hle, if_true]
    rfl

theorem exists_firstDay?_weekYear (weeks : WeekNumbering) (reading : ℤ) : ∃ weekYear,
    (weeks.weekYearStart weekYear ≤ reading / secondsPerDay ∧
      reading / secondsPerDay < weeks.weekYearStart (weekYear + 1)) ∧
    (ofReading reading).firstDay? weeks .yearForWeekOfYear = some (weeks.weekYearStart weekYear) ∧
    (ofReading reading).weekOfYear weeks =
      ((reading / secondsPerDay - weeks.weekYearStart weekYear) / 7 + 1, weekYear) := by
  obtain ⟨weekYear, hmem, -, heq⟩ := weeks.exists_weekYear (ofReading reading).dayNumber
  have hweek : (ofReading reading).weekOfYear weeks =
      ((reading / secondsPerDay - weeks.weekYearStart weekYear) / 7 + 1, weekYear) := heq
  refine ⟨weekYear, hmem, ?_, hweek⟩
  rw [firstDay?, hweek, WeekNumbering.dayAt_firstWeek]

theorem weekOfYear_eq_beginning? : some ((ofReading reading).weekOfYear weeks).1 =
      ((beginning? weeks reading .yearForWeekOfYear).map
        fun b => (reading - b) * nanosPerSecond / (7 * nanosPerDay) + 1).filter
          (· ≤ Binary64.int64Max) := by
  obtain ⟨weekYear, hmem, hfirst, hweek⟩ := exists_firstDay?_weekYear weeks reading
  have hs := weeks.weekYearStart_succ weekYear
  have hposition : (reading - weeks.weekYearStart weekYear * secondsPerDay) * nanosPerSecond /
      (7 * nanosPerDay) = (reading / secondsPerDay - weeks.weekYearStart weekYear) / 7 := by
    unfold nanosPerDay nanosPerSecond secondsPerDay
    omega
  have hle : (reading / secondsPerDay - weeks.weekYearStart weekYear) / 7 + 1 ≤
      Binary64.int64Max := by
    unfold Binary64.int64Max
    omega
  simp only [beginning?, hfirst, hweek, Option.map_some, Option.filter_some, hposition,
    decide_eq_true hle, if_true]

variable (weeks) in
/-- **Positions count lengths from the beginning.** -/
theorem positionWithin?_eq {length : ℤ} (hcontains : large.contains small = true)
    (hcounted : small.CountedIn large length) (hr : reading.natAbs ≤ 2 ^ 54) :
    (ofReading reading).positionWithin? weeks small large =
      ((beginning? weeks reading large).map
        fun b => (reading - b) * nanosPerSecond / length + 1).filter (· ≤ Binary64.int64Max) := by
  cases hcounted with
  | clock hsmall =>
    have hlarge : large ≠ .nanosecond := by
      rintro rfl
      simp [TimeUnit.contains] at hcontains
    rw [← timeWithin?_eq hsmall hlarge]
    cases small with
    | hour | minute | second | nanosecond => rfl
    | _ => cases hsmall
  | day =>
    rw [← dayWithin?_eq_beginning? (large.not_clock_of_contains_day hcontains) hr]
    rfl
  | weekday h =>
    have hclock : large.isClockUnit = false := by rcases h with rfl | rfl <;> rfl
    rw [← dayWithin?_eq_beginning? hclock hr]
    rcases h with rfl | rfl <;> rfl
  | week => exact weekOfYear_eq_beginning?

end LocalTime

namespace Calendar

variable {cal : Calendar} {offset : FixedOffset} (hzone : cal.zone = .fixed offset)
include hzone

/-- Nanoseconds take part in the positions of units of the time of day only. -/
theorem ordinality?_fixed {small large : TimeUnit} (hclock : small.isClockUnit = false)
    (hcontains : large.contains small = true) (t : Instant) : cal.ordinality? small large t =
      (LocalTime.ofReading (t.secondsAndNanos.1 + offset.seconds)).positionWithin? cal.weeks small
        large := by
  rw [ordinality?, if_pos hcontains, localTime_fixed hzone]
  cases small with
  | hour | minute | second | nanosecond => cases hclock
  | _ => cases large <;> rfl

/-- **Positions count lengths from the start.** Only era `0` has no start, and then there is no
position; else there is one unless it is beyond the signed 64-bit integers. -/
theorem ordinality?_eq_floor {small large : TimeUnit} {length : ℤ}
    (hcontains : large.contains small = true) (hcounted : small.CountedIn large length) {n : ℤ}
    (hn : n.natAbs ≤ 2 ^ 53) :
    (cal.startOf? large (.ofSeconds n) = none ↔
      large = .era ∧ (cal.localTime (.ofSeconds n)).date.year < 1) ∧
    (cal.startOf? large (.ofSeconds n) = none →
      cal.ordinality? small large (.ofSeconds n) = none) ∧
    ∀ s : ℤ, s.natAbs < 2 ^ 53 → cal.startOf? large (.ofSeconds n) = some (.ofSeconds s) →
      cal.ordinality? small large (.ofSeconds n) =
        if (n - s) * nanosPerSecond / length + 1 ≤ Binary64.int64Max then
          some ((n - s) * nanosPerSecond / length + 1)
        else none := by
  have ho := offset.within_day
  unfold secondsPerDay at ho
  have hr : offset.IsExact (n + offset.seconds) := by
    unfold FixedOffset.IsExact
    omega
  have hposition := LocalTime.positionWithin?_eq cal.weeks hcontains hcounted
    (show (n + offset.seconds).natAbs ≤ 2 ^ 54 by omega)
  rw [offset.ofSeconds_eq_instantAt n, ordinality?, if_pos hcontains,
    localTime_instantAt hzone hr, hposition]
  have hnone : cal.startOf? large (offset.instantAt (n + offset.seconds)) = none ↔
      LocalTime.beginning? cal.weeks (n + offset.seconds) large = none := by
    rw [startOf?_eq_beginning? hzone hr, Option.map_eq_none_iff]
  refine ⟨hnone.trans LocalTime.beginning?_eq_none_iff, ?_, ?_⟩
  · intro h
    rw [hnone.mp h]
    rfl
  · intro s hs h
    have hsub : n + offset.seconds - (s + offset.seconds) = n - s := by ring
    rw [beginning?_of_startOf? hzone hr hs h, Option.map_some, Option.filter_some, hsub]
    simp only [decide_eq_true_eq]

omit hzone in
/-- With ISO weeks, 2021-01-01 02:00 lies in the hour 8835 of its week year, which began on
2019-12-30. -/
theorem ordinality?_eq_floor_longWeekYear :
    let cal : Calendar := ⟨⟨2, 4, by decide, by decide⟩, .utc⟩
    cal.startOf? .yearForWeekOfYear (.ofSeconds 1609466400) = some (.ofSeconds 1577664000) ∧
      cal.ordinality? .hour .yearForWeekOfYear (.ofSeconds 1609466400) = some 8835 := by
  intro cal
  obtain ⟨-, -, hfloor⟩ := ordinality?_eq_floor (show cal.zone = .fixed _ from rfl)
    (by decide : TimeUnit.yearForWeekOfYear.contains .hour = true) (.clock rfl)
    (by decide : (1609466400 : ℤ).natAbs ≤ 2 ^ 53)
  have hs : cal.startOf? .yearForWeekOfYear (.ofSeconds 1609466400) =
      some (.ofSeconds 1577664000) := by decide +kernel
  refine ⟨hs, (hfloor 1577664000 (by decide) hs).trans ?_⟩
  decide

omit hzone in
/-- Far out, starts are rounded. This second is the fifth of its minute, but the start of the minute
is no binary64 number and is rounded to the second itself. -/
theorem ordinality?_beyond_exact :
    TimeUnit.minute.contains .second = true ∧
      Calendar.standard.startOf? .minute (.ofSeconds 72057594037927984) =
        some (.ofSeconds 72057594037927984) ∧
      Calendar.standard.ordinality? .second .minute (.ofSeconds 72057594037927984) = some 5 ∧
      (72057594037927984 - 72057594037927984) * nanosPerSecond / LocalTime.nanosOf .second + 1 =
        1 := by
  decide +kernel

end Calendar

end Almanac
