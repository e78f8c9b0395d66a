import Mathlib
import Almanac.Proofs.Instant.Rounding
import Almanac.Proofs.Calendar.Position

/-!
# Positions begin at one

The first instance of a unit inside a larger one has position `1`, and the beginning of the larger
unit lies in it. Weeks that are numbered in a month or more are the exception: a first week that is
too short to count has number `0`.

* `TimeUnit.IsNumberedIn`: weeks in the units whose days before the first week have none.
* `LocalTime.positionWithin?_numbered`: their numbers count from the first week.
* `LocalTime.exists_measure`: other positions of dates count blocks of days or months.
* `LocalTime.positionWithin?_pos` and `LocalTime.positionWithin?_first`: positions anywhere, and at
  the beginning of the large unit.
* **`Calendar.ordinality?_pos`**: the same for the positions of instants.
* `Calendar.ordinality?_not_pos`: a number `0`, and a start that is rounded to a later second.
-/

namespace Almanac

/-- Weeks are numbered in the large unit, and days before its first week are in week `0`. -/
def TimeUnit.IsNumberedIn (small large : TimeUnit) : Prop :=
  small ∈ [.weekOfMonth, .weekOfYear] ∧ large ∈ [.era, .year, .quarter, .month]

instance (small large : TimeUnit) : Decidable (small.IsNumberedIn large) :=
  inferInstanceAs (Decidable (_ ∧ _))

theorem TimeUnit.IsNumberedIn.not_clock {small large : TimeUnit} (h : small.IsNumberedIn large) :
    small.isClockUnit = false ∧ large.isClockUnit = false := by
  revert small large
  decide

theorem TimeUnit.ne_nanosecond_of_contains (large : TimeUnit) {small : TimeUnit}
    (h : large.contains small = true) : large ≠ .nanosecond := by
  rintro rfl
  simp [contains] at h

theorem TimeUnit.not_clock_of_contains (large : TimeUnit) {small : TimeUnit}
    (hsmall : small.isClockUnit = false) (h : large.contains small = true) :
    large.isClockUnit = false := by
  revert small large
  decide

namespace LocalTime

variable {weeks : WeekNumbering} {reading day b p : ℤ} {unit small large : TimeUnit}

theorem firstDay?_nanos (l : LocalTime) (nanos : ℤ) :
    LocalTime.firstDay? { l with nanosecond := nanos } weeks unit = l.firstDay? weeks unit := by
  cases unit <;> rfl

theorem firstDay?_le (hclock : unit.isClockUnit = false)
    (hday : (ofReading reading).firstDay? weeks unit = some day) :
    day ≤ (ofReading reading).dayNumber := by
  rcases firstDay?_mem hclock hday with ⟨rfl, rfl⟩ | ⟨hle, -⟩
  · simp only [firstDay?, Option.ite_none_left_eq_some] at hday
    have hm := (date_isValid reading).month_mem
    obtain ⟨hle, -⟩ := Date.monthIndex_ofDayNumber.mp
      (rfl : (ofReading reading).date.monthIndex = _)
    have hera : eraStart = monthStart 12 := by decide
    rw [hera]
    refine (monthStart_mono ?_).trans hle
    unfold Date.monthIndex
    omega
  · change day ≤ reading / secondsPerDay
    unfold secondsPerDay at *
    omega

theorem beginning?_idem (h : beginning? weeks reading unit = some b) :
    beginning? weeks b unit = some b := by
  cases hT : unit.tiling? weeks with
  | some T =>
    obtain ⟨k, hk⟩ := T.exists_covers reading
    rw [beginning?_of_covers hT hk] at h
    obtain rfl := Option.some.inj h
    exact beginning?_of_covers hT (T.covers_start k)
  | none =>
    cases unit with
    | era =>
      simp only [beginning?, firstDay?, Option.map_eq_some_iff, Option.ite_none_left_eq_some] at h
      obtain ⟨day, ⟨-, hday⟩, rfl⟩ := h
      obtain rfl := Option.some.inj hday
      have hyear : ¬ (ofReading (eraStart * secondsPerDay)).date.year < 1 := by decide +kernel
      simp only [beginning?, firstDay?, if_neg hyear, Option.map_some]
    | weekdayOrdinal =>
      obtain rfl := Option.some.inj h
      simp only [beginning?, firstDay?, ofReading_mul, Option.map_some]
    | nanosecond => rfl
    | _ => cases hT

theorem positionWithin?_numbered (h : small.IsNumberedIn large) :
    (ofReading reading).positionWithin? weeks small large =
      ((ofReading reading).firstDay? weeks large).map fun first =>
        ((ofReading reading).dayNumber - weeks.firstWeek first) / 7 + 1 := by
  have hweek : (ofReading reading).positionWithin? weeks small large =
      ((ofReading reading).dayWithin? weeks large).map fun day =>
        weeks.weekAt day day (ofReading reading).weekday := by
    obtain ⟨hsmall, hlarge⟩ := h
    fin_cases hsmall <;> fin_cases hlarge <;> rfl
  rw [hweek, dayWithin?_eq_firstDay? h.not_clock.2, Option.map_map]
  congr 1
  funext first
  exact weeks.weekAt_eq_firstWeek first (ofReading reading).dayNumber

/-! ## Anywhere -/

theorem dayWithin?_pos (hclock : unit.isClockUnit = false)
    (hp : (ofReading reading).dayWithin? weeks unit = some p) : 1 ≤ p := by
  rw [dayWithin?_eq_firstDay? hclock, Option.map_eq_some_iff] at hp
  obtain ⟨first, hfirst, rfl⟩ := hp
  have hle := firstDay?_le hclock hfirst
  omega

theorem elapsed?_nonneg {nanos : ℤ} {e : ℤ × ℤ} (hn : 0 ≤ nanos) (hlarge : large ≠ .nanosecond)
    (he : LocalTime.elapsed? { ofReading reading with nanosecond := nanos } weeks large = some e) :
    0 ≤ e.1 ∧ 0 ≤ e.2 := by
  have hs := (secondOfDay_mem reading).1
  have htotal : 0 ≤ (ofReading reading).secondOfDay * nanosPerSecond + nanos := by
    unfold nanosPerSecond
    omega
  by_cases hclock : large.isClockUnit = false
  · have hdays : LocalTime.elapsed? { ofReading reading with nanosecond := nanos } weeks large =
        ((ofReading reading).dayWithin? weeks large).map fun day =>
          (day - 1, (ofReading reading).secondOfDay * nanosPerSecond + nanos) := by
      cases large with
      | hour | minute | second | nanosecond => cases hclock
      | _ => rfl
    rw [hdays, Option.map_eq_some_iff] at he
    obtain ⟨day, hday, rfl⟩ := he
    have hpos := dayWithin?_pos hclock hday
    exact ⟨by omega, htotal⟩
  · cases large with
    | hour | minute =>
      obtain rfl := Option.some.inj he
      exact ⟨le_rfl, Int.emod_nonneg _ (by decide)⟩
    | second =>
      obtain rfl := Option.some.inj he
      exact ⟨le_rfl, hn⟩
    | nanosecond => exact absurd rfl hlarge
    | _ => exact absurd rfl hclock

theorem positionWithin?_clock (l : LocalTime) (hsmall : small.isClockUnit = true) :
    l.positionWithin? weeks small large = l.timeWithin? weeks small large := by
  cases small with
  | hour | minute | second | nanosecond => rfl
  | _ => cases hsmall

theorem timeWithin?_pos {nanos : ℤ} (hn : 0 ≤ nanos) (hsmall : small.isClockUnit = true)
    (hlarge : large ≠ .nanosecond)
    (hp : LocalTime.timeWithin? { ofReading reading with nanosecond := nanos } weeks small large =
      some p) : 1 ≤ p := by
  unfold timeWithin? at hp
  cases he : LocalTime.elapsed? { ofReading reading with nanosecond := nanos } weeks large with
  | none =>
    rw [he] at hp
    cases hp
  | some e =>
    obtain ⟨hdays, hnanos⟩ := elapsed?_nonneg hn hlarge he
    simp only [he, Option.bind_eq_bind, Option.bind_some, Option.ite_none_right_eq_some] at hp
    have hlength : 0 ≤ nanosOf small ∧ 0 ≤ nanosPerDay / nanosOf small := by
      cases small with
      | hour | minute | second | nanosecond => decide
      | _ => cases hsmall
    have hwhole := mul_nonneg hdays hlength.2
    have hpart := Int.ediv_nonneg hnanos hlength.1
    have hp' := Option.some.inj hp.2
    omega

/-! ## Positions of dates -/

theorem positionWithin?_weekday (l : LocalTime) (hsmall : small ∈ [.weekday, .weekdayOrdinal])
    (hlarge : large ∉ [.weekOfMonth, .weekOfYear]) : l.positionWithin? weeks small large =
      (l.dayWithin? weeks large).map fun day => (day - 1) / 7 + 1 := by
  fin_cases hsmall <;> cases large with
    | weekOfMonth | weekOfYear => exact absurd (by decide) hlarge
    | _ => rfl

theorem positionWithin?_months {n : ℤ} (hsmall : small = .quarter ∧ n = 3 ∨ small = .month ∧ n = 1)
    (hcontains : large.contains small = true) :
    (ofReading reading).positionWithin? weeks small large =
      ((ofReading reading).firstDay? weeks large).map fun first =>
        ((ofReading reading).date.monthIndex - (Date.ofDayNumber first).monthIndex) / n + 1 := by
  have hm := (date_isValid reading).month_mem
  have hera : Date.ofDayNumber eraStart = ⟨1, 1, 1⟩ := by decide +kernel
  have hfirst : ∀ month, 1 ≤ month ∧ month ≤ 12 →
      Date.ofDayNumber (Date.dayNumber ⟨(ofReading reading).date.year, month, 1⟩) =
        ⟨(ofReading reading).date.year, month, 1⟩ := by
    intro month hmonth
    have hl := monthLength_mem (ofReading reading).date.year month
    exact Date.ofDayNumber_dayNumber ⟨hmonth, by dsimp only; omega⟩
  rcases hsmall with ⟨rfl, rfl⟩ | ⟨rfl, rfl⟩
  · cases large with
    | era =>
      simp only [positionWithin?, firstDay?, yearOfEra, quarterOf]
      by_cases hyear : 1 ≤ (ofReading reading).date.year
      · simp only [if_pos hyear, if_neg (not_lt.mpr hyear), Option.map_some, hera, Date.monthIndex,
          if_true]
        congr 1
        omega
      · simp only [if_neg hyear, if_pos (not_le.mp hyear), Option.map_none]
        rfl
    | year =>
      simp only [positionWithin?, firstDay?, Option.map_some, hfirst 1 (by decide),
        Date.monthIndex, quarterOf]
      congr 1
      omega
    | _ => cases hcontains
  · cases large with
    | era =>
      simp only [positionWithin?, firstDay?, yearOfEra]
      by_cases hyear : 1 ≤ (ofReading reading).date.year
      · simp only [if_pos hyear, if_neg (not_lt.mpr hyear), Option.map_some, hera, Date.monthIndex,
          if_true]
        congr 1
        omega
      · simp only [if_neg hyear, if_pos (not_le.mp hyear), Option.map_none]
        rfl
    | year =>
      simp only [positionWithin?, firstDay?, Option.map_some, hfirst 1 (by decide),
        Date.monthIndex]
      congr 1
      omega
    | quarter =>
      have hquarter : 1 ≤ quarterStart (ofReading reading).date.month ∧
          quarterStart (ofReading reading).date.month ≤ 12 := by
        unfold quarterStart
        omega
      simp only [positionWithin?, firstDay?, Option.map_some, hfirst _ hquarter, Date.monthIndex]
      unfold quarterStart
      congr 1
      omega
    | _ => cases hcontains

/-- A position counts blocks of days, or of the months of days, since the large unit began. -/
theorem exists_measure (weeks : WeekNumbering) (hclock : small.isClockUnit = false)
    (hcontains : large.contains small = true) (hnumbered : ¬ small.IsNumberedIn large)
    (hyear : small ≠ .year) :
    ∃ (measure : ℤ → ℤ) (n : ℤ), Monotone measure ∧ 0 < n ∧ ∀ reading,
      (ofReading reading).positionWithin? weeks small large =
        ((ofReading reading).firstDay? weeks large).map fun first =>
          (measure (ofReading reading).dayNumber - measure first) / n + 1 := by
  have hlarge := large.not_clock_of_contains hclock hcontains
  have hdays : ∀ reading, (ofReading reading).dayWithin? weeks large =
      ((ofReading reading).firstDay? weeks large).map fun first =>
        (id (ofReading reading).dayNumber - id first) / 1 + 1 := by
    intro reading
    simp only [Int.ediv_one, id]
    exact dayWithin?_eq_firstDay? hlarge
  cases small with
  | hour | minute | second | nanosecond => cases hclock
  | era | yearForWeekOfYear => cases large <;> cases hcontains
  | year => exact absurd rfl hyear
  | quarter =>
    exact ⟨_, 3, Date.monthIndex_mono, by decide,
      fun _ => positionWithin?_months (.inl ⟨rfl, rfl⟩) hcontains⟩
  | month =>
    exact ⟨_, 1, Date.monthIndex_mono, by decide,
      fun _ => positionWithin?_months (.inr ⟨rfl, rfl⟩) hcontains⟩
  | day => exact ⟨id, 1, monotone_id, by decide, hdays⟩
  | weekday | weekdayOrdinal =>
    by_cases hweek : large ∈ [.weekOfMonth, .weekOfYear]
    · refine ⟨id, 1, monotone_id, by decide, fun reading => ?_⟩
      rw [← hdays]
      fin_cases hweek <;> rfl
    · refine ⟨id, 7, monotone_id, by decide, fun reading => ?_⟩
      rw [positionWithin?_weekday _ (by decide) hweek, hdays, Option.map_map]
      congr 1
      funext first
      simp
  | weekOfMonth | weekOfYear =>
    cases large with
    | yearForWeekOfYear =>
      refine ⟨id, 7, monotone_id, by decide, fun reading => ?_⟩
      obtain ⟨weekYear, -, hfirst, hweek⟩ := exists_firstDay?_weekYear weeks reading
      rw [hfirst, Option.map_some]
      change some ((ofReading reading).weekOfYear weeks).1 = _
      rw [hweek]
      rfl
    | era | year | quarter | month => exact absurd (by decide) hnumbered
    | _ => cases hcontains

/-- **Positions of dates are positive, but for days before the first of numbered weeks.** -/
theorem positionWithin?_pos (hclock : small.isClockUnit = false)
    (hcontains : large.contains small = true) (hnumbered : ¬ small.IsNumberedIn large)
    (hp : (ofReading reading).positionWithin? weeks small large = some p) : 1 ≤ p := by
  by_cases hyear : small = .year
  · subst hyear
    obtain rfl : (yearOfEra (ofReading reading).date.year).2 = p := Option.some.inj hp
    unfold yearOfEra
    split <;> dsimp only <;> omega
  · obtain ⟨measure, n, hmono, hn, hposition⟩ :=
      exists_measure weeks hclock hcontains hnumbered hyear
    rw [hposition, Option.map_eq_some_iff] at hp
    obtain ⟨first, hfirst, rfl⟩ := hp
    have hle := hmono (firstDay?_le (large.not_clock_of_contains hclock hcontains) hfirst)
    have hblocks := Int.ediv_nonneg (sub_nonneg.mpr hle) hn.le
    omega

/-! ## At the beginning -/

theorem firstDay?_of_beginning? (hclock : large.isClockUnit = false)
    (hb : beginning? weeks b large = some b) :
    (ofReading b).firstDay? weeks large = some (ofReading b).dayNumber := by
  rw [beginning?_of_not_clock hclock, Option.map_eq_some_iff] at hb
  obtain ⟨first, hfirst, hb⟩ := hb
  have hday : (ofReading b).dayNumber = first := by
    change b / secondsPerDay = first
    rw [← hb, Int.mul_ediv_cancel _ (by decide)]
  rw [hfirst, hday]

/-- **At its beginning, a unit has the first of its positions.** -/
theorem positionWithin?_first (hcontains : large.contains small = true)
    (hb : beginning? weeks b large = some b) :
    (ofReading b).positionWithin? weeks small large =
      some (if small.IsNumberedIn large ∧
        7 - weeks.placeOf (ofReading b).weekday < weeks.minimumDays then 0 else 1) := by
  by_cases hsmall : small.isClockUnit = true
  · have hnumbered : ¬ small.IsNumberedIn large := fun h =>
      absurd (hsmall.symm.trans h.not_clock.1) (by decide)
    rw [positionWithin?_clock _ hsmall,
      timeWithin?_eq hsmall (large.ne_nanosecond_of_contains hcontains), hb, Option.map_some,
      sub_self, zero_mul, Int.zero_ediv, zero_add, if_neg fun h => hnumbered h.1]
    rfl
  rw [Bool.not_eq_true] at hsmall
  have hclock := large.not_clock_of_contains hsmall hcontains
  have hfirst := firstDay?_of_beginning? hclock hb
  by_cases hnumbered : small.IsNumberedIn large
  · rw [positionWithin?_numbered hnumbered, hfirst, Option.map_some, weeks.firstWeek_eq]
    simp only [hnumbered, true_and]
    change some (_ + 1) = some (if 7 - weeks.placeOf (weekdayOf (ofReading b).dayNumber) < _ then _
      else _)
    have hplace := weeks.placeOf_mem (weekdayOf (ofReading b).dayNumber)
    congr 1
    split <;> split <;> omega
  rw [if_neg fun h => hnumbered h.1]
  by_cases hyear : small = .year
  · subst hyear
    cases large with
    | era =>
      simp only [firstDay?, Option.ite_none_left_eq_some, Option.some.injEq] at hfirst
      have hdate : (ofReading b).date = ⟨1, 1, 1⟩ := by
        change Date.ofDayNumber (ofReading b).dayNumber = _
        rw [← hfirst.2]
        decide +kernel
      simp only [positionWithin?, hdate]
      rfl
    | _ => cases hcontains
  · obtain ⟨measure, n, -, -, hposition⟩ :=
      exists_measure weeks hsmall hcontains hnumbered hyear
    rw [hposition, hfirst, Option.map_some, sub_self, Int.zero_ediv, zero_add]

end LocalTime

namespace Calendar

variable {cal : Calendar} {offset : FixedOffset} (hzone : cal.zone = .fixed offset)
include hzone

/-- **Positions count from one.** Only weeks that are numbered in a month or more have a position
`0`, on the days before the first week. A unit of era `1` has a start, and where this is an exact
second, it has position `1` in all units around it, or the number `0` of a week that is too short.
The steps to these starts and positions fit 64 bits (`Checked.startOf?_eq_of_isInner`,
`Checked.ordinality?_eq`). -/
theorem ordinality?_pos {small large : TimeUnit} (hcontains : large.contains small = true) :
    ∀ t : Instant, t.IsInner →
      (∀ p, cal.ordinality? small large t = some p → 0 ≤ p ∧
        (p = 0 ↔ small.IsNumberedIn large ∧ ∃ first,
          (cal.localTime t).firstDay? cal.weeks large = some first ∧
            (cal.localTime t).dayNumber < cal.weeks.firstWeek first)) ∧
      (1 ≤ (cal.localTime t).date.year → ∃ s, cal.startOf? large t = some s) ∧
      ∀ s : ℤ, s.natAbs < 2 ^ 53 → cal.startOf? large t = some (.ofSeconds s) →
        cal.ordinality? small large (.ofSeconds s) = some (if small.IsNumberedIn large ∧
          7 - cal.weeks.placeOf (cal.localTime (.ofSeconds s)).weekday < cal.weeks.minimumDays
        then 0 else 1) := by
  have hlarge := large.ne_nanosecond_of_contains hcontains
  intro t _
  refine ⟨?_, ?_, ?_⟩
  · intro p hp
    by_cases hnumbered : small.IsNumberedIn large
    · have hclock := hnumbered.not_clock
      rw [ordinality?_fixed hzone hclock.1 hcontains, LocalTime.positionWithin?_numbered hnumbered,
        Option.map_eq_some_iff] at hp
      obtain ⟨first, hfirst, rfl⟩ := hp
      have hle := LocalTime.firstDay?_le hclock.2 hfirst
      have hmem := cal.weeks.firstWeek_mem first
      rw [localTime_fixed hzone, LocalTime.firstDay?_nanos, hfirst]
      simp only [hnumbered, true_and, Option.some.injEq, exists_eq_left']
      omega
    · have hpos : 1 ≤ p := by
        by_cases hclock : small.isClockUnit = true
        · rw [ordinality?, if_pos hcontains, localTime_fixed hzone,
            LocalTime.positionWithin?_clock _ hclock] at hp
          exact LocalTime.timeWithin?_pos t.nanos_nonneg hclock hlarge hp
        · rw [Bool.not_eq_true] at hclock
          rw [ordinality?_fixed hzone hclock hcontains] at hp
          exact LocalTime.positionWithin?_pos hclock hcontains hnumbered hp
      exact ⟨by omega, fun hzero => absurd hzero (by omega), fun h => absurd h.1 hnumbered⟩
  · intro hyear
    have hsome : LocalTime.beginning? cal.weeks (t.secondsAndNanos.1 + offset.seconds) large ≠
        none := by
      rw [Ne, LocalTime.beginning?_eq_none_iff]
      rintro ⟨-, hera⟩
      rw [localTime_fixed hzone] at hyear
      dsimp only at hyear
      omega
    obtain ⟨b, hb⟩ := Option.ne_none_iff_exists'.mp hsome
    exact ⟨_, by rw [startOf?_fixed hzone hlarge, hb, Option.map_some]⟩
  · intro s hs hstart
    have hb := beginning?_of_startOf?_fixed hzone hlarge hs hstart
    have hl : cal.localTime (.ofSeconds s) = .ofReading (s + offset.seconds) := by
      rw [localTime_fixed hzone, Instant.secondsAndNanos_ofSeconds (by omega)]
      rfl
    rw [ordinality?, if_pos hcontains, hl]
    exact LocalTime.positionWithin?_first hcontains (LocalTime.beginning?_idem hb)

omit hzone in
/-- With ISO weeks, March 2025 begins on a Saturday, and its first two days are in week `0`. -/
theorem ordinality?_pos_shortWeek :
    let cal : Calendar := ⟨⟨2, 4, by decide, by decide⟩, .utc⟩
    cal.startOf? .month (.ofSeconds 1742000000) = some (.ofSeconds 1740787200) ∧
      cal.ordinality? .day .month (.ofSeconds 1740787200) = some 1 ∧
      cal.ordinality? .weekOfMonth .month (.ofSeconds 1740787200) = some 0 ∧
      (cal.localTime (.ofSeconds 1740787200)).dayNumber < cal.weeks.firstWeek 20148 := by
  intro cal
  have hzone : cal.zone = .fixed _ := rfl
  have hinner : ∀ n ∈ [(1742000000 : ℤ), 1740787200], (Instant.ofSeconds n).IsInner := by
    decide +kernel
  have hstart : cal.startOf? .month (.ofSeconds 1742000000) = some (.ofSeconds 1740787200) := by
    decide +kernel
  obtain ⟨-, -, hday⟩ := ordinality?_pos hzone (by decide : TimeUnit.month.contains .day = true)
    _ (hinner 1742000000 (by decide))
  obtain ⟨-, -, hweek⟩ := ordinality?_pos hzone
    (by decide : TimeUnit.month.contains .weekOfMonth = true) _ (hinner 1742000000 (by decide))
  obtain ⟨hzero, -⟩ := ordinality?_pos hzone
    (by decide : TimeUnit.month.contains .weekOfMonth = true) _ (hinner 1740787200 (by decide))
  have hshort : TimeUnit.IsNumberedIn .weekOfMonth .month ∧ 7 - cal.weeks.placeOf
      (cal.localTime (.ofSeconds 1740787200)).weekday < cal.weeks.minimumDays := by decide +kernel
  have hnumber : cal.ordinality? .weekOfMonth .month (.ofSeconds 1740787200) = some 0 := by
    rw [hweek _ (by decide) hstart, if_pos hshort]
  have hmonth : (cal.localTime (.ofSeconds 1740787200)).firstDay? cal.weeks .month =
      some 20148 := by decide +kernel
  refine ⟨hstart, ?_, hnumber, ?_⟩
  · rw [hday _ (by decide) hstart]
    rfl
  · obtain ⟨-, first, hfirst, hbefore⟩ := (hzero 0 hnumber).2.mp rfl
    obtain rfl := Option.some.inj (hfirst.symm.trans hmonth)
    exact hbefore

omit hzone in
/-- Where a first week has two days at least, the first of March 2025, a Saturday, is in week `0`.
And a minute beyond the exact seconds starts at a rounded one, which has position `5` in it. -/
theorem ordinality?_not_pos :
    (TimeUnit.month.contains .weekOfMonth = true ∧
      1 ≤ (standard.localTime (.ofSeconds 1740787200)).date.year ∧
      Calendar.startOf? ⟨⟨1, 2, by decide, by decide⟩, .utc⟩ .month (.ofSeconds 1740787200) =
        some (.ofSeconds 1740787200) ∧
      Calendar.ordinality? ⟨⟨1, 2, by decide, by decide⟩, .utc⟩ .weekOfMonth .month
        (.ofSeconds 1740787200) = some 0) ∧
    TimeUnit.minute.contains .second = true ∧
      1 ≤ (standard.localTime (.ofSeconds 72057594037927984)).date.year ∧
      standard.startOf? .minute (.ofSeconds 72057594037927984) =
        some (.ofSeconds 72057594037927984) ∧
      standard.ordinality? .second .minute (.ofSeconds 72057594037927984) = some 5 := by
  decide +kernel

end Calendar

end Almanac
