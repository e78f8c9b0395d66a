import Mathlib
import Almanac.Proofs.Calendar.FirstPosition
import Almanac.Proofs.Checked.Start
import Almanac.Proofs.Instant.Fraction

/-!
# Positions in 64 bits

The position of a unit in a larger one, step by step. Only the last steps, from days to units of the
time of day, may leave the 64-bit integers, and they report it.

* `Checked.fits?`: a step that reports an overflow.
* `Checked.dayWithin?`, `Checked.timeWithin?`, `Checked.positionWithin?`: positions at a local time.
* `Checked.ordinality?`: the position at an instant.
* **`Checked.ordinality?_eq`**: no step overflows that does not report it, at any instant whose
  reading fits.
-/

namespace Almanac

namespace LocalTime

variable {weeks : WeekNumbering} {reading p : ℤ} {unit : TimeUnit}

theorem dayWithin?_mem (hr : reading.natAbs < 2 ^ 63)
    (hp : (ofReading reading).dayWithin? weeks unit = some p) : 1 ≤ p ∧ p < 10 ^ 15 := by
  have hclock : unit.isClockUnit = false := by
    cases unit with
    | hour | minute | second | nanosecond => cases hp
    | _ => rfl
  refine ⟨dayWithin?_pos hclock hp, ?_⟩
  rw [dayWithin?_eq_firstDay? hclock, Option.map_eq_some_iff] at hp
  obtain ⟨first, hfirst, rfl⟩ := hp
  have hnumber := natAbs_dayNumber_le reading
  have hmem := firstDay?_mem hclock hfirst
  change (reading / secondsPerDay).natAbs ≤ _ at hnumber
  change reading / secondsPerDay - first + 1 < _
  unfold eraStart secondsPerDay at *
  omega

end LocalTime

namespace Checked

open LocalTime

/-- A step that comes to nothing if its exact result is no 64-bit integer. -/
def fits? (n : ℤ) : Option ℤ :=
  if Binary64.int64Min ≤ n ∧ n ≤ Binary64.int64Max then some n else none

/-- If nothing is negative, it is enough to look at the last step. -/
theorem fits?_chain {whole part : ℤ} (hwhole : 0 ≤ whole) (hpart : 0 ≤ part) :
    (do fits? ((← fits? ((← fits? whole) + part)) + 1)) =
      if whole + part + 1 ≤ Binary64.int64Max then some (whole + part + 1) else none := by
  unfold fits? Binary64.int64Min Binary64.int64Max
  by_cases h₁ : whole ≤ 9223372036854775807
  · rw [if_pos (by omega), Option.bind_eq_bind, Option.bind_some]
    by_cases h₂ : whole + part ≤ 9223372036854775807
    · rw [if_pos (by omega), Option.bind_some]
      by_cases h₃ : whole + part + 1 ≤ 9223372036854775807
      · rw [if_pos (by omega), if_pos h₃]
      · rw [if_neg (by omega), if_neg h₃]
    · rw [if_neg (by omega), if_neg (by omega)]
      rfl
  · rw [if_neg (by omega), if_neg (by omega)]
    rfl

section Position

variable (weeks : WeekNumbering) (l : LocalTime)

/-- The position of the day inside a unit. -/
def dayWithin? : TimeUnit → Checked (Option ℤ)
  | .era => if l.date.year < 1 then value none else some <$> (l.dayNumber - eraStart + 1 : Checked ℤ)
  | .year => some <$> dayOfYear l.date
  | .yearForWeekOfYear => do
    let week ← localWeek weeks l
    let start ← dayAt weeks (← dayNumber ⟨week.2, 1, 1⟩) 1 none
    some <$> (l.dayNumber - start + 1 : Checked ℤ)
  | .quarter => do
    let month : ℤ ← (l.date.month - 1) / 3 * 3 + 1
    let start ← dayNumber ⟨l.date.year, month, 1⟩
    some <$> (l.dayNumber - start + 1 : Checked ℤ)
  | .month => value (some l.date.day)
  | .weekOfMonth | .weekOfYear => do
    let position ← placeOf weeks (← weekdayOf l.dayNumber)
    some <$> (position + 1 : Checked ℤ)
  | .day | .weekday | .weekdayOrdinal => value (some 1)
  | .hour | .minute | .second | .nanosecond => value none

/-- Days and nanoseconds from the beginning of a unit. -/
def elapsed? (large : TimeUnit) : Checked (Option (ℤ × ℤ)) := do
  let nanos : ℤ ← l.secondOfDay * nanosPerSecond + l.nanosecond
  match large with
  | .hour | .minute => do
    let rest : ℤ ← nanos % nanosOf large
    value (some (0, rest))
  | .second => value (some (0, l.nanosecond))
  | _ => andThen (dayWithin? weeks l large) fun day => do
    let days : ℤ ← day - 1
    value (days, nanos)

/-- The position of a unit of the time of day inside a larger unit. -/
def timeWithin? (small large : TimeUnit) : Checked (Option ℤ) := do
  match ← elapsed? weeks l large with
  | none => value none
  | some (days, nanos) => do
    let perDay : ℤ ← nanosPerDay / nanosOf small
    let part : ℤ ← nanos / nanosOf small
    value do fits? ((← fits? ((← fits? (days * perDay)) + part)) + 1)

/-- The position of a unit inside a unit that contains it. -/
def positionWithin? (small large : TimeUnit) : Checked (Option ℤ) := do
  let weekday ← weekdayOf l.dayNumber
  let year ← yearOfEra l.date.year
  let quarter : ℤ ← (l.date.month - 1) / 3 + 1
  match small, large with
  | .hour, _ | .minute, _ | .second, _ | .nanosecond, _ => timeWithin? weeks l small large
  | .year, _ => value (some year.2)
  | .quarter, .era =>
    if year.1 = 1 then some <$> ((year.2 - 1) * 4 + quarter : Checked ℤ) else value none
  | .quarter, .year => value (some quarter)
  | .month, .era =>
    if year.1 = 1 then some <$> ((year.2 - 1) * 12 + l.date.month : Checked ℤ) else value none
  | .month, .year => value (some l.date.month)
  | .month, .quarter => some <$> ((l.date.month - 1) % 3 + 1 : Checked ℤ)
  | .day, _ => dayWithin? weeks l large
  | .weekday, .weekOfMonth | .weekday, .weekOfYear | .weekdayOrdinal, .weekOfMonth
  | .weekdayOrdinal, .weekOfYear => do
    let position ← placeOf weeks weekday
    some <$> (position + 1 : Checked ℤ)
  | .weekday, _ | .weekdayOrdinal, _ =>
    andThen (dayWithin? weeks l large) fun day => (day - 1) / 7 + 1
  | .weekOfMonth, .yearForWeekOfYear | .weekOfYear, .yearForWeekOfYear => do
    let week ← localWeek weeks l
    value (some week.1)
  | .weekOfMonth, _ | .weekOfYear, _ =>
    andThen (dayWithin? weeks l large) fun day => weekAt weeks day day weekday
  | _, _ => value none

end Position

/-- The position of the small unit at an instant inside the large one. -/
def ordinality? (cal : Calendar) (small large : TimeUnit) (t : Instant) : Checked (Option ℤ) :=
  if large.contains small then do
    positionWithin? cal.weeks (← localTime cal t) small large
  else value none

/-! ## Exact steps -/

section Exact

variable {weeks : WeekNumbering} {reading : ℤ} {small large : TimeUnit}
  (hr : reading.natAbs < 2 ^ 63)
include hr

theorem dayWithin?_eq (weeks : WeekNumbering) (large : TimeUnit) :
    dayWithin? weeks (ofReading reading) large =
      value ((ofReading reading).dayWithin? weeks large) := by
  have hnumber := natAbs_dayNumber_le reading
  have hyear := natAbs_year_le reading
  have hv := date_isValid reading
  have hmonth := hv.month_mem
  have hera : eraStart = -719162 := rfl
  cases large with
  | era =>
    rw [dayWithin?, LocalTime.dayWithin?]
    split
    · rfl
    · simp (disch := omega) only [ofNat_eq, sub_eq, add_eq, map_value]
  | year =>
    rw [dayWithin?, dayOfYear_eq hv (by omega)]
    rfl
  | yearForWeekOfYear =>
    obtain ⟨-, hweek⟩ := weekOfYear_mem weeks reading
    rw [dayWithin?, localWeek_eq weeks hr, value_bind, LocalTime.dayWithin?]
    generalize ((ofReading reading).weekOfYear weeks).2 = weekYear at *
    obtain ⟨hfirst, hstart, hsize⟩ :=
      firstOfWeekYear_eq weeks (show weekYear.natAbs < 10 ^ 12 by omega)
    rw [hfirst, value_bind, hstart, value_bind]
    simp (disch := omega) only [ofNat_eq, sub_eq, add_eq, map_value]
  | quarter =>
    rw [dayWithin?, LocalTime.dayWithin?, quarterStart]
    simp (disch := omega) only [ofNat_eq, sub_eq, div_eq, mul_eq, add_eq, value_bind]
    obtain ⟨hfirst, hsize⟩ := firstOfMonth_eq
      (show (ofReading reading).date.year.natAbs < 10 ^ 12 by omega)
      (show 1 ≤ ((ofReading reading).date.month - 1) / 3 * 3 + 1 ∧ _ ≤ (12 : ℤ) by omega)
    rw [hfirst, value_bind]
    simp (disch := omega) only [sub_eq, add_eq, map_value]
  | month => rfl
  | weekOfMonth | weekOfYear =>
    have hplace := weeks.placeOf_mem (Almanac.weekdayOf (ofReading reading).dayNumber)
    have hweekday := weekdayOf_mem (ofReading reading).dayNumber
    rw [dayWithin?, weekdayOf_eq (by omega), value_bind, placeOf_eq weeks (by omega), value_bind]
    simp (disch := omega) only [ofNat_eq, add_eq, map_value]
    rfl
  | day | weekday | weekdayOrdinal => rfl
  | hour | minute | second | nanosecond => rfl

variable {nanos : ℤ} (hn : 0 ≤ nanos ∧ nanos < nanosPerSecond)
include hn

theorem elapsed?_eq (weeks : WeekNumbering) (large : TimeUnit) :
    elapsed? weeks { ofReading reading with nanosecond := nanos } large =
      value (LocalTime.elapsed? { ofReading reading with nanosecond := nanos } weeks large) := by
  have hsecond := secondOfDay_mem reading
  have hnanos : ((ofReading reading).secondOfDay * nanosPerSecond + nanos : Checked ℤ) =
      value ((ofReading reading).secondOfDay * nanosPerSecond + nanos) := by
    unfold secondsPerDay at hsecond
    unfold nanosPerSecond at *
    simp (disch := omega) only [mul_eq, add_eq]
  have hnonneg : 0 ≤ (ofReading reading).secondOfDay * nanosPerSecond + nanos := by
    unfold nanosPerSecond
    omega
  have hdays : andThen (dayWithin? weeks (ofReading reading) large) (fun day => do
      let days : ℤ ← day - 1
      value (days, (ofReading reading).secondOfDay * nanosPerSecond + nanos)) =
      value (((ofReading reading).dayWithin? weeks large).map fun day =>
        (day - 1, (ofReading reading).secondOfDay * nanosPerSecond + nanos)) := by
    rw [dayWithin?_eq hr]
    refine andThen_eq fun day hday => ?_
    obtain ⟨hpos, hlt⟩ := dayWithin?_mem hr hday
    simp (disch := omega) only [ofNat_eq, sub_eq, value_bind]
  rw [elapsed?, hnanos, value_bind]
  cases large with
  | hour | minute =>
    have hlength : 0 < nanosOf .hour ∧ 0 < nanosOf .minute := by decide
    simp only [mod_eq ⟨hnonneg, hlength.1⟩, mod_eq ⟨hnonneg, hlength.2⟩, value_bind,
      LocalTime.elapsed?]
  | second => rfl
  | _ => exact hdays

theorem timeWithin?_eq (weeks : WeekNumbering) (hsmall : small.isClockUnit = true)
    (hlarge : large ≠ .nanosecond) :
    timeWithin? weeks { ofReading reading with nanosecond := nanos } small large =
      value (LocalTime.timeWithin? { ofReading reading with nanosecond := nanos } weeks small
        large) := by
  have hlength : 0 ≤ nanosPerDay ∧ 0 < nanosOf small ∧ 0 ≤ nanosPerDay / nanosOf small := by
    cases small with
    | hour | minute | second | nanosecond => decide
    | _ => cases hsmall
  rw [timeWithin?, elapsed?_eq hr hn, value_bind, LocalTime.timeWithin?]
  cases he : LocalTime.elapsed? { ofReading reading with nanosecond := nanos } weeks large with
  | none => rfl
  | some e =>
    obtain ⟨hdays, hnanos⟩ := elapsed?_nonneg hn.1 hlarge he
    obtain ⟨days, nanos⟩ := e
    have hwhole := mul_nonneg hdays hlength.2.2
    have hpart := Int.ediv_nonneg hnanos hlength.2.1.le
    dsimp only at hdays hnanos hwhole hpart ⊢
    rw [div_eq ⟨hlength.1, hlength.2.1⟩, value_bind, div_eq ⟨hnanos, hlength.2.1⟩, value_bind,
      fits?_chain hwhole hpart]
    rfl

theorem positionWithin?_eq (weeks : WeekNumbering) (hcontains : large.contains small = true) :
    positionWithin? weeks { ofReading reading with nanosecond := nanos } small large =
      value (LocalTime.positionWithin? { ofReading reading with nanosecond := nanos } weeks small
        large) := by
  have hnumber := natAbs_dayNumber_le reading
  have hyear := natAbs_year_le reading
  have hmonth := (date_isValid reading).month_mem
  have hweekday := weekdayOf_mem (ofReading reading).dayNumber
  have hplace := weeks.placeOf_mem (ofReading reading).weekday
  have hinEra := natAbs_yearOfEra_le reading
  have hdays : ∀ {f : ℤ → Checked ℤ} {g : ℤ → ℤ}, (∀ day, 1 ≤ day ∧ day < 10 ^ 15 →
      f day = value (g day)) → andThen (dayWithin? weeks (ofReading reading) large) f =
        value (((ofReading reading).dayWithin? weeks large).map g) := by
    intro f g hstep
    rw [dayWithin?_eq hr]
    exact andThen_eq fun day hday => hstep day (dayWithin?_mem hr hday)
  rw [positionWithin?]
  dsimp only
  rw [weekdayOf_eq (by omega), value_bind, yearOfEra_eq (by omega), value_bind]
  simp (disch := omega) only [ofNat_eq, sub_eq, div_eq, add_eq, value_bind]
  cases small with
  | hour | minute | second | nanosecond =>
    exact timeWithin?_eq hr hn weeks rfl (large.ne_nanosecond_of_contains hcontains)
  | era | yearForWeekOfYear => cases large <;> cases hcontains
  | year => rfl
  | quarter =>
    cases large with
    | era =>
      simp (disch := omega) only [mul_eq, add_eq, map_value, LocalTime.positionWithin?]
      split <;> rfl
    | year => rfl
    | _ => cases hcontains
  | month =>
    cases large with
    | era =>
      simp (disch := omega) only [mul_eq, add_eq, map_value, LocalTime.positionWithin?]
      split <;> rfl
    | year => rfl
    | quarter => simp (disch := omega) only [mod_eq, add_eq, map_value, LocalTime.positionWithin?]
    | _ => cases hcontains
  | day => exact dayWithin?_eq hr weeks large
  | weekday | weekdayOrdinal =>
    have hinWeek : (do
        let position ← placeOf weeks (ofReading reading).weekday
        some <$> (position + 1 : Checked ℤ)) =
          value (some (weeks.placeOf (ofReading reading).weekday + 1)) := by
      rw [placeOf_eq weeks (by unfold weekday; omega), value_bind]
      simp (disch := omega) only [ofNat_eq, add_eq, map_value]
    have hcount : ∀ day : ℤ, 1 ≤ day ∧ day < 10 ^ 15 →
        ((day - 1) / 7 + 1 : Checked ℤ) = value ((day - 1) / 7 + 1) := by
      intro day hday
      simp (disch := omega) only [ofNat_eq, sub_eq, div_eq, add_eq]
    cases large with
    | weekOfMonth | weekOfYear => exact hinWeek
    | _ => exact hdays (g := fun day => (day - 1) / 7 + 1) hcount
  | weekOfMonth | weekOfYear =>
    have hcount : ∀ day : ℤ, 1 ≤ day ∧ day < 10 ^ 15 →
        weekAt weeks day day (ofReading reading).weekday =
          value (weeks.weekAt day day (ofReading reading).weekday) := fun day hday =>
      weekAt_eq weeks (by omega) (by omega) (by unfold weekday; omega)
    cases large with
    | yearForWeekOfYear =>
      change (do
        let week ← localWeek weeks (ofReading reading)
        value (some week.1)) = _
      rw [localWeek_eq weeks hr]
      rfl
    | _ => exact hdays hcount

end Exact

/-- **No step of a position overflows that does not report it**, if the second and the reading fit. -/
theorem ordinality?_eq {cal : Calendar} {t : Instant} (small large : TimeUnit)
    (ht : t.secondsAndNanos.1 ≤ Binary64.int64Max)
    (hr : (cal.zone.source.toLocal t.secondsAndNanos.1).natAbs < 2 ^ 63) :
    ordinality? cal small large t = value (cal.ordinality? small large t) := by
  rw [ordinality?, Calendar.ordinality?]
  split
  · next hcontains =>
    rw [localTime_eq ht hr, value_bind, cal.localTime_eq]
    exact positionWithin?_eq hr ⟨t.nanos_nonneg, t.nanos_lt⟩ cal.weeks hcontains
  · rfl

end Checked

end Almanac
