import Mathlib
import Almanac.Proofs.Calendar.FirstPosition

/-!
# Starts of units in larger units

Where a large unit begins, so does each unit that it contains. Beginnings follow the order of the
readings, so a small unit never begins before the large one that holds it, and cutting off the small
unit first does not change what the large one is cut off to. Numbered weeks are the exception: they
begin in the month before.

* `LocalTime.beginning?_mono`: beginnings follow the order of the readings.
* `LocalTime.beginning?_of_contains`: a small unit begins wherever a large one does.
* `LocalTime.beginning?_beginning?`: the beginning of the small unit lies in the same large unit.
* **`Calendar.startOf?_startOf?`**: the same for starts, as far as these are exact.
* `Calendar.startOf?_rounded`: a start that is rounded to the hour before.
-/

namespace Almanac

namespace TimeUnit

theorem eq_era_of_contains_year : ∀ large : TimeUnit, large.contains .year = true → large = .era := by
  decide

theorem mem_of_contains_quarter : ∀ large : TimeUnit, large.contains .quarter = true →
    large ∈ [.era, .year] := by decide

theorem mem_of_contains_month : ∀ large : TimeUnit, large.contains .month = true →
    large ∈ [.era, .year, .quarter] := by decide

theorem not_clock_of_contains_hour : ∀ large : TimeUnit, large.contains .hour = true →
    large.isClockUnit = false := by decide

theorem not_clock_of_contains_minute : ∀ large : TimeUnit, large.contains .minute = true →
    large.isClockUnit = false ∨ large = .hour := by decide

theorem eq_weekYear_of_contains : ∀ large small : TimeUnit, small ∈ [.weekOfMonth, .weekOfYear] →
    large.contains small = true → ¬ small.IsNumberedIn large → large = .yearForWeekOfYear := by
  decide

end TimeUnit

theorem WeekNumbering.startOfWeek_weekYearStart (weeks : WeekNumbering) (year : ℤ) :
    weeks.startOfWeek (weeks.weekYearStart year) = weeks.weekYearStart year := by
  simp only [weekYearStart, startOfWeek_eq]
  omega

namespace LocalTime

variable {weeks : WeekNumbering} {reading later b c : ℤ} {unit small large : TimeUnit}

theorem beginning?_era :
    beginning? weeks reading .era =
      if (ofReading reading).date.year < 1 then none else some (monthStart 12 * secondsPerDay) := by
  have hera : eraStart = monthStart 12 := by decide
  rw [beginning?_of_not_clock rfl, firstDay?, hera]
  split <;> rfl

/-! ## Order -/

/-- **Beginnings follow the order of the readings.** -/
theorem beginning?_mono (h : reading ≤ later) (hb : beginning? weeks reading unit = some b) :
    ∃ c, beginning? weeks later unit = some c ∧ b ≤ c := by
  cases hT : unit.tiling? weeks with
  | some T =>
    obtain ⟨k, hk⟩ := T.exists_covers reading
    obtain ⟨j, hj⟩ := T.exists_covers later
    obtain rfl := Option.some.inj (hb.symm.trans (beginning?_of_covers hT hk))
    exact ⟨_, beginning?_of_covers hT hj, T.strictMono.monotone (T.covers_mono hk hj h)⟩
  | none =>
    cases unit with
    | era =>
      have hday : (ofReading reading).dayNumber ≤ (ofReading later).dayNumber :=
        Int.ediv_le_ediv (by decide) h
      have hmonth : (ofReading reading).date.monthIndex ≤ (ofReading later).date.monthIndex :=
        Date.monthIndex_mono hday
      have hm := (date_isValid reading).month_mem
      have hm' := (date_isValid later).month_mem
      rw [beginning?_era, Option.ite_none_left_eq_some] at hb
      obtain ⟨hyear, hb⟩ := hb
      unfold Date.monthIndex at hmonth
      rw [beginning?_era, if_neg (by omega)]
      exact ⟨b, hb, le_rfl⟩
    | weekdayOrdinal =>
      obtain rfl := Option.some.inj hb
      refine ⟨_, rfl, ?_⟩
      exact mul_le_mul_of_nonneg_right (Int.ediv_le_ediv (by decide) h) (by decide)
    | nanosecond =>
      obtain rfl := Option.some.inj hb
      exact ⟨later, rfl, h⟩
    | _ => cases hT

theorem beginning?_le (hb : beginning? weeks reading unit = some b) : b ≤ reading := by
  cases hT : unit.tiling? weeks with
  | some T =>
    obtain ⟨k, hk⟩ := T.exists_covers reading
    obtain rfl := Option.some.inj (hb.symm.trans (beginning?_of_covers hT hk))
    exact hk.1
  | none =>
    cases unit with
    | era | weekdayOrdinal =>
      rw [beginning?_of_not_clock rfl, Option.map_eq_some_iff] at hb
      obtain ⟨day, hday, rfl⟩ := hb
      have hle : day ≤ reading / secondsPerDay := firstDay?_le rfl hday
      exact (Int.le_ediv_iff_mul_le (by decide)).mp hle
    | nanosecond =>
      obtain rfl := Option.some.inj hb
      exact le_rfl
    | _ => cases hT

/-! ## Common beginnings -/

theorem dvd_beginning? (hclock : unit.isClockUnit = false)
    (hb : beginning? weeks reading unit = some b) : secondsPerDay ∣ b := by
  rw [beginning?_of_not_clock hclock, Option.map_eq_some_iff] at hb
  obtain ⟨day, -, rfl⟩ := hb
  exact dvd_mul_left _ _

theorem exists_monthStart_of_year (hunit : unit ∈ [.era, .year])
    (hb : beginning? weeks b unit = some b) : ∃ k, b = monthStart (12 * k) * secondsPerDay := by
  fin_cases hunit
  · rw [beginning?_era, Option.ite_none_left_eq_some] at hb
    exact ⟨1, (Option.some.inj hb.2).symm⟩
  · obtain ⟨k, hk⟩ := (Tiling.months 12 (by decide)).exists_covers b
    exact ⟨k, Option.some.inj (hb.symm.trans (beginning?_of_covers rfl hk))⟩

theorem exists_monthStart_of_quarter (hunit : unit ∈ [.era, .year, .quarter])
    (hb : beginning? weeks b unit = some b) : ∃ k, b = monthStart (3 * k) * secondsPerDay := by
  by_cases hquarter : unit = .quarter
  · subst hquarter
    obtain ⟨k, hk⟩ := (Tiling.months 3 (by decide)).exists_covers b
    exact ⟨k, Option.some.inj (hb.symm.trans (beginning?_of_covers rfl hk))⟩
  · obtain ⟨k, rfl⟩ := exists_monthStart_of_year (by simpa [hquarter] using hunit) hb
    exact ⟨4 * k, by rw [← mul_assoc]; rfl⟩

theorem beginning?_of_start {T : Tiling} {k : ℤ} (hT : unit.tiling? weeks = some T)
    (hk : T.start k = b) : beginning? weeks b unit = some b := by
  rw [beginning?_of_covers hT (hk ▸ T.covers_start k), hk]

/-- **A small unit begins wherever a large one does.** -/
theorem beginning?_of_contains (hcontains : large.contains small = true)
    (hnumbered : ¬ small.IsNumberedIn large) (hb : beginning? weeks b large = some b) :
    beginning? weeks b small = some b := by
  cases small with
  | era | yearForWeekOfYear => cases large <;> cases hcontains
  | year =>
    have hlarge := large.eq_era_of_contains_year hcontains
    obtain ⟨k, rfl⟩ := exists_monthStart_of_year (by simp [hlarge]) hb
    exact beginning?_of_start rfl (k := k) rfl
  | quarter =>
    have hlarge := large.mem_of_contains_quarter hcontains
    obtain ⟨k, rfl⟩ := exists_monthStart_of_quarter (List.mem_append_left [.quarter] hlarge) hb
    exact beginning?_of_start rfl (k := k) rfl
  | month =>
    obtain ⟨k, rfl⟩ := exists_monthStart_of_quarter (large.mem_of_contains_month hcontains) hb
    refine beginning?_of_start rfl (k := 3 * k) ?_
    change monthStart (1 * (3 * k)) * secondsPerDay = _
    rw [one_mul]
  | weekOfMonth | weekOfYear =>
    obtain rfl := large.eq_weekYear_of_contains _ (by decide) hcontains hnumbered
    obtain ⟨weekYear, -, hfirst, -⟩ := exists_firstDay?_weekYear weeks b
    rw [beginning?_of_not_clock rfl, hfirst] at hb
    obtain rfl := Option.some.inj hb
    have hweek := weeks.startOfWeek_weekYearStart weekYear
    rw [beginning?_of_not_clock rfl, ofReading_mul]
    exact congrArg (fun day => some (day * secondsPerDay)) hweek
  | day | weekday | weekdayOrdinal =>
    have hclock := large.not_clock_of_contains rfl hcontains
    exact congrArg some (Int.ediv_mul_cancel (dvd_beginning? hclock hb))
  | hour =>
    have hday := dvd_beginning? (large.not_clock_of_contains_hour hcontains) hb
    have hhour : 3600 ∣ secondsPerDay := by decide
    exact congrArg some (Int.ediv_mul_cancel (hhour.trans hday))
  | minute =>
    have hminute : 60 ∣ b := by
      obtain hclock | rfl := large.not_clock_of_contains_minute hcontains
      · have hday : 60 ∣ secondsPerDay := by decide
        exact hday.trans (dvd_beginning? hclock hb)
      · have hhour : b / 3600 * 3600 = b := Option.some.inj hb
        omega
    exact congrArg some (Int.ediv_mul_cancel hminute)
  | second | nanosecond => rfl

/-! ## Nested beginnings -/

/-- **The beginning of a small unit lies in the same large unit.** Where the large unit begins, the
small one does too, and so it begins no earlier. -/
theorem beginning?_beginning? (hcontains : large.contains small = true)
    (hnumbered : ¬ small.IsNumberedIn large) (hb : beginning? weeks reading small = some b) :
    beginning? weeks b large = beginning? weeks reading large := by
  have hle := beginning?_le hb
  cases hc : beginning? weeks reading large with
  | none =>
    rw [Option.eq_none_iff_forall_ne_some]
    intro d hd
    obtain ⟨d', hd', -⟩ := beginning?_mono hle hd
    rw [hc] at hd'
    cases hd'
  | some c =>
    have hself := beginning?_of_contains hcontains hnumbered (beginning?_idem hc)
    obtain ⟨b', hb', hcb⟩ := beginning?_mono (beginning?_le hc) hself
    obtain rfl := Option.some.inj (hb.symm.trans hb')
    -- the large unit of `b` begins between the beginnings of that of `c` and of the reading
    obtain ⟨d, hd, hcd⟩ := beginning?_mono hcb (beginning?_idem hc)
    obtain ⟨c', hc', hdc⟩ := beginning?_mono hle hd
    obtain rfl := Option.some.inj (hc.symm.trans hc')
    rw [hd, le_antisymm hdc hcd]

end LocalTime

/-! ## Nested starts -/

namespace Calendar

theorem reading_localTime (cal : Calendar) (t : Instant) :
    (cal.localTime t).reading = cal.zone.source.toLocal t.secondsAndNanos.1 :=
  LocalTime.reading_eq _

/-- The start of a unit is not rounded: there the clock shows the beginning of the unit. -/
def StartsExactly (cal : Calendar) (unit : TimeUnit) (t s : Instant) : Prop :=
  cal.startOf? unit t = some s ∧ ∃ b,
    LocalTime.beginning? cal.weeks (cal.localTime t).reading unit = some b ∧
      cal.localTime s = .ofReading b

variable {cal : Calendar} {offset : FixedOffset} (hzone : cal.zone = .fixed offset)
  {small large unit : TimeUnit} {t : Instant}
include hzone

theorem startOf?_eq_none_iff (hunit : unit ≠ .nanosecond) :
    cal.startOf? unit t = none ↔ unit = .era ∧ (cal.localTime t).date.year < 1 := by
  rw [startOf?_fixed hzone hunit, Option.map_eq_none_iff, LocalTime.beginning?_eq_none_iff,
    localTime_fixed hzone]

theorem startOf?_congr {t' : Instant} (hunit : unit ≠ .nanosecond)
    (h : LocalTime.beginning? cal.weeks (cal.localTime t').reading unit =
      LocalTime.beginning? cal.weeks (cal.localTime t).reading unit) :
    cal.startOf? unit t' = cal.startOf? unit t := by
  rw [reading_localTime, reading_localTime, toLocal_fixed hzone, toLocal_fixed hzone] at h
  rw [startOf?_fixed hzone hunit, startOf?_fixed hzone hunit, h]

theorem startsExactly_of_natAbs_lt {s : ℤ} (hs : s.natAbs < 2 ^ 53)
    (h : cal.startOf? unit t = some (.ofSeconds s)) : cal.StartsExactly unit t (.ofSeconds s) := by
  have hlocal : cal.localTime (.ofSeconds s) = .ofReading (s + offset.seconds) := by
    rw [cal.localTime_ofSeconds (by omega), toLocal_fixed hzone]
  refine ⟨h, s + offset.seconds, ?_, hlocal⟩
  rw [reading_localTime, toLocal_fixed hzone]
  by_cases hunit : unit = .nanosecond
  · subst hunit
    obtain rfl := Option.some.inj h
    rw [Instant.secondsAndNanos_ofSeconds (by omega)]
    rfl
  · exact beginning?_of_startOf?_fixed hzone hunit hs h

/-- **Cutting off a small unit first does not change the start of a large one.** This is so for every
unit in a unit that contains it, but for numbered weeks, and for every instant around which readings
fit 64 bits, as the steps to starts then do (`Checked.startOf?_eq_of_isInner`). The start of the small
unit must not be rounded, as no small whole second is. Only era `0` has no start, before and after. -/
theorem startOf?_startOf? (hcontains : large.contains small = true)
    (hnumbered : ¬ small.IsNumberedIn large) : ∀ t : Instant, t.IsInner →
      (∃ s, cal.startOf? small t = some s) ∧
      (∀ s, cal.StartsExactly small t s → cal.startOf? large s = cal.startOf? large t) ∧
      (cal.startOf? large t = none ↔ large = .era ∧ (cal.localTime t).date.year < 1) ∧
      ∀ s : ℤ, s.natAbs < 2 ^ 53 → cal.startOf? small t = some (.ofSeconds s) →
        cal.StartsExactly small t (.ofSeconds s) := by
  intro t _
  have hlarge := large.ne_nanosecond_of_contains hcontains
  refine ⟨?_, ?_, startOf?_eq_none_iff hzone hlarge, fun s => startsExactly_of_natAbs_lt hzone⟩
  · by_cases hunit : small = .nanosecond
    · exact ⟨t, hunit ▸ rfl⟩
    · refine Option.ne_none_iff_exists'.mp fun hnone => ?_
      obtain ⟨rfl, -⟩ := (startOf?_eq_none_iff hzone hunit).mp hnone
      cases large <;> cases hcontains
  · rintro s ⟨-, b, hb, hs⟩
    have hreading : (cal.localTime s).reading = b := by
      rw [hs]
      exact LocalTime.reading_eq b
    exact startOf?_congr hzone hlarge
      (hreading ▸ LocalTime.beginning?_beginning? hcontains hnumbered hb)

omit hzone in
/-- Weeks from Monday of at least four days: the first day of 2021 lies in the week year that begins
in December 2019, and so does its start. -/
theorem startOf?_startOf?_newYear :
    let cal : Calendar := ⟨⟨2, 4, by decide, by decide⟩, .utc⟩
    cal.startOf? .day (.ofSeconds 1609466400) = some (.ofSeconds 1609459200) ∧
      cal.startOf? .yearForWeekOfYear (.ofSeconds 1609459200) =
        cal.startOf? .yearForWeekOfYear (.ofSeconds 1609466400) ∧
      cal.startOf? .yearForWeekOfYear (.ofSeconds 1609466400) = some (.ofSeconds 1577664000) := by
  intro cal
  have hstart : cal.startOf? .day (.ofSeconds 1609466400) = some (.ofSeconds 1609459200) := by
    decide +kernel
  obtain ⟨-, hnested, -, hexact⟩ := @startOf?_startOf? cal _ rfl .day .yearForWeekOfYear
    (by decide) (by decide) (.ofSeconds 1609466400) (by decide +kernel)
  exact ⟨hstart, hnested _ (hexact _ (by decide) hstart), by decide +kernel⟩

omit hzone in
/-- Far out the start of a minute is rounded to a second of the hour before. -/
theorem startOf?_rounded :
    TimeUnit.hour.contains .minute = true ∧ ¬ TimeUnit.minute.IsNumberedIn .hour ∧
    standard.startOf? .minute (.ofSeconds 144115188075867616) =
        some (.ofSeconds 144115188075867584) ∧
      standard.startOf? .hour (.ofSeconds 144115188075867584) ≠
        standard.startOf? .hour (.ofSeconds 144115188075867616) := by
  refine ⟨by decide, by decide, by decide +kernel, ?_⟩
  decide +kernel

end Calendar

end Almanac
