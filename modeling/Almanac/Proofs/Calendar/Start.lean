import Mathlib
import Almanac.Proofs.Calendar.Fixed
import Almanac.Calendar.Start

/-!
# Where units begin

A unit begins at a reading: at the midnight of its first day, or where the smaller parts of the time
of day are zero. In a fixed zone its start is the instant of that reading, and a start that is a
small whole second tells the reading.

* `LocalTime.beginning?`: the reading at which a unit begins; era `0` has none.
* `Calendar.startOf?_fixed`: starts are the instants of beginnings; `Calendar.startOf?_eq_beginning?`
  says so for the instant of a reading.
* `Calendar.startOf?_of_beginning?` and **`Calendar.beginning?_of_startOf?_fixed`**: between the two,
  as far as seconds are exact.
-/

namespace Almanac

variable {unit : TimeUnit} {reading b : ℤ}

namespace LocalTime

variable {weeks : WeekNumbering}

/-- The reading at which the unit that holds a reading begins. -/
def beginning? (weeks : WeekNumbering) (reading : ℤ) : TimeUnit → Option ℤ
  | .hour => some (reading / 3600 * 3600)
  | .minute => some (reading / 60 * 60)
  | .second | .nanosecond => some reading
  | unit => ((ofReading reading).firstDay? weeks unit).map (· * secondsPerDay)

theorem beginning?_of_not_clock (h : unit.isClockUnit = false) : beginning? weeks reading unit =
    ((ofReading reading).firstDay? weeks unit).map (· * secondsPerDay) := by
  cases unit with
  | hour | minute | second | nanosecond => cases h
  | _ => rfl

theorem beginning?_eq_none_iff : beginning? weeks reading unit = none ↔
    unit = .era ∧ (ofReading reading).date.year < 1 := by
  cases unit <;> simp [beginning?, firstDay?]

end LocalTime

namespace Calendar

variable {cal : Calendar} {offset : FixedOffset}

theorem startOf?_of_not_clock (hclock : unit.isClockUnit = false) (t : Instant) :
    cal.startOf? unit t =
      ((cal.localTime t).firstDay? cal.weeks unit).map (cal.instantOf · 0 0 {}) := by
  cases unit with
  | hour | minute | second | nanosecond => cases hclock
  | _ => rfl

theorem localTime_wholeSecond (cal : Calendar) (n : ℤ) : cal.localTime (.ofSeconds n) =
    .ofReading (cal.zone.source.toLocal (Instant.ofSeconds n).secondsAndNanos.1) := by
  rw [localTime_eq, Instant.nanos_ofSeconds]
  rfl

variable (hzone : cal.zone = .fixed offset)
include hzone

theorem localTime_fixed (t : Instant) : cal.localTime t =
    { LocalTime.ofReading (t.secondsAndNanos.1 + offset.seconds) with
      nanosecond := t.secondsAndNanos.2 } := by
  rw [cal.localTime_eq, toLocal_fixed hzone]

theorem localTime_ofSeconds_fixed (n : ℤ) : cal.localTime (.ofSeconds n) =
    .ofReading ((Instant.ofSeconds n).secondsAndNanos.1 + offset.seconds) := by
  rw [localTime_wholeSecond, toLocal_fixed hzone]

theorem truncate_fixed {length : ℤ} (hd : length ∣ secondsPerDay) (t : Instant) :
    cal.truncate t length =
      offset.instantAt ((t.secondsAndNanos.1 + offset.seconds) / length * length) := by
  have hsplit := Int.ediv_mul_add_emod (t.secondsAndNanos.1 + offset.seconds) length
  rw [truncate, localTime_fixed hzone]
  change Instant.ofSeconds (t.secondsAndNanos.1 -
    (t.secondsAndNanos.1 + offset.seconds) % secondsPerDay % length) = _
  rw [Int.emod_emod_of_dvd _ hd, FixedOffset.instantAt]
  congr 1
  omega

/-- Starts are the instants of beginnings. Midnights get nothing added to their seconds, which
matters where these are rounded. -/
theorem startOf?_fixed (hunit : unit ≠ .nanosecond) (t : Instant) :
    cal.startOf? unit t =
      (LocalTime.beginning? cal.weeks (t.secondsAndNanos.1 + offset.seconds) unit).map fun b =>
        if unit.isClockUnit then offset.instantAt b else offset.instantAt b + Binary64.ofInt 0 := by
  by_cases hclock : unit.isClockUnit = false
  · have hmidnight : ∀ day, cal.instantOf day 0 0 {} =
        offset.instantAt (day * secondsPerDay) + Binary64.ofInt 0 := by
      intro day
      rw [instantOf_eq_add, toUtc_fixed hzone, add_zero, FixedOffset.instantAt]
    rw [startOf?_of_not_clock hclock, localTime_fixed hzone,
      LocalTime.beginning?_of_not_clock hclock, Option.map_map, hclock]
    change ((LocalTime.ofReading _).firstDay? cal.weeks unit).map _ = _
    congr 1
    exact funext hmidnight
  · cases unit with
    | hour | minute =>
      simp only [startOf?, LocalTime.beginning?]
      rw [truncate_fixed hzone (by decide)]
      rfl
    | second =>
      simp only [startOf?, LocalTime.beginning?]
      rw [truncate_fixed hzone (by decide), Int.ediv_one, mul_one]
      rfl
    | nanosecond => exact absurd rfl hunit
    | _ => exact absurd rfl hclock

theorem startOf?_eq_beginning? (hr : offset.IsExact reading) (unit : TimeUnit) :
    cal.startOf? unit (offset.instantAt reading) =
      (LocalTime.beginning? cal.weeks reading unit).map fun b =>
        if unit.isClockUnit then offset.instantAt b else offset.instantAt b + Binary64.ofInt 0 := by
  by_cases hunit : unit = .nanosecond
  · rw [hunit]
    rfl
  · rw [startOf?_fixed hzone hunit, FixedOffset.instantAt, Instant.secondsAndNanos_ofSeconds hr,
      Int.sub_add_cancel]

theorem startOf?_of_beginning? (hr : offset.IsExact reading)
    (h : LocalTime.beginning? cal.weeks reading unit = some b) (hb : offset.IsExact b) :
    cal.startOf? unit (offset.instantAt reading) = some (offset.instantAt b) := by
  have hzero := offset.instantAt_add hb (by decide : (0 : ℤ).natAbs ≤ 2 ^ 53) (by rwa [add_zero])
  rw [add_zero] at hzero
  rw [startOf?_eq_beginning? hzone hr, h, Option.map_some, hzero, ite_self]

/-- **A start that is a small whole second is the beginning of the unit.** -/
theorem beginning?_of_startOf?_fixed {t : Instant} {s : ℤ} (hunit : unit ≠ .nanosecond)
    (hs : s.natAbs < 2 ^ 53) (h : cal.startOf? unit t = some (.ofSeconds s)) :
    LocalTime.beginning? cal.weeks (t.secondsAndNanos.1 + offset.seconds) unit =
      some (s + offset.seconds) := by
  rw [startOf?_fixed hzone hunit, Option.map_eq_some_iff] at h
  obtain ⟨b, hb, hstart⟩ := h
  have hexact : offset.instantAt b = .ofSeconds s := by
    split at hstart
    · exact hstart
    · have hle := Instant.natAbs_le_of_add_zero hs hstart
      rw [FixedOffset.instantAt, Instant.ofSeconds_add_ofInt hle (by decide) (by rwa [add_zero]),
        add_zero] at hstart
      exact hstart
  rw [hb, ← Instant.ofSeconds_inj hs hexact, Int.sub_add_cancel]

theorem beginning?_of_startOf? {s : ℤ} (hr : offset.IsExact reading) (hs : s.natAbs < 2 ^ 53)
    (h : cal.startOf? unit (offset.instantAt reading) = some (.ofSeconds s)) :
    LocalTime.beginning? cal.weeks reading unit = some (s + offset.seconds) := by
  by_cases hunit : unit = .nanosecond
  · subst hunit
    have hreading := Instant.ofSeconds_inj hs (Option.some.inj h)
    rw [← hreading, Int.sub_add_cancel]
    rfl
  · have hb := beginning?_of_startOf?_fixed hzone hunit hs h
    rwa [FixedOffset.instantAt, Instant.secondsAndNanos_ofSeconds hr, Int.sub_add_cancel] at hb

end Calendar

end Almanac
