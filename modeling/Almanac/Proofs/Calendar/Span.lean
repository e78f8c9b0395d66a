import Mathlib
import Almanac.Proofs.Instant.Rounding
import Almanac.Proofs.Calendar.Position

/-!
# The instants of a unit

Instants are in one instance of a unit where they have the same start. Starts are rounded, but not by
days, so in a fixed zone an instance of a unit of days is the instants of a run of days. None of these
is without an instant, unless the instance is cut off where the 64-bit seconds end.

* `Calendar.span`: the instants in the instance of a unit that holds an instant.
* `Calendar.onDays`: the instants of some days.
* `Calendar.startOf?_eq_iff`: equal starts are those of equal beginnings.
* **`Calendar.exists_span_eq_onDays`**: an instance of a unit is the instants of the days of a tile.
* **`Calendar.exists_whole_span`**: if it holds an inner instant, each of these days has an instant.
-/

namespace Almanac

/-- Seconds are 64-bit integers, but for a fraction that is carried. -/
theorem Instant.seconds_mem (t : Instant) : Binary64.int64Min ≤ t.secondsAndNanos.1 ∧
    t.secondsAndNanos.1 ≤ Binary64.int64Max + 1 := by
  have hmem := t.seconds.floor.toInt64_mem
  simp only [secondsAndNanos]
  split <;> dsimp only <;> omega

namespace Calendar

variable (cal : Calendar)

/-- The instants in the same instance of a unit: those that have the same start. -/
def span (unit : TimeUnit) (t : Instant) : Set Instant :=
  {t' | cal.startOf? unit t' = cal.startOf? unit t}

theorem mem_span_self (unit : TimeUnit) (t : Instant) : t ∈ cal.span unit t := rfl

/-- The instants of some days. -/
def onDays (days : Set ℤ) : Set Instant := {t | (cal.localTime t).dayNumber ∈ days}

theorem onDays_inter (days others : Set ℤ) :
    cal.onDays days ∩ cal.onDays others = cal.onDays (days ∩ others) := rfl

variable {cal} {offset : FixedOffset} {unit : TimeUnit} {t t' : Instant} {b k : ℤ}
  (hzone : cal.zone = .fixed offset)
include hzone

theorem dayNumber_fixed (t : Instant) : (cal.localTime t).dayNumber =
    (t.secondsAndNanos.1 + offset.seconds) / secondsPerDay := by
  rw [localTime_fixed hzone]
  rfl

omit hzone in
theorem natAbs_beginning_lt
    (hb : LocalTime.beginning? cal.weeks (t.secondsAndNanos.1 + offset.seconds) unit = some b) :
    (b - offset.seconds).natAbs < 2 ^ 64 := by
  have ho := offset.within_day
  have ht := t.seconds_mem
  have hmem := LocalTime.beginning?_mem hb
  unfold Binary64.int64Min Binary64.int64Max secondsPerDay eraStart at *
  omega

/-- **Equal starts are those of equal beginnings.** Midnights are not rounded to each other. -/
theorem startOf?_eq_iff (hclock : unit.isClockUnit = false) (t t' : Instant) :
    cal.startOf? unit t' = cal.startOf? unit t ↔
      LocalTime.beginning? cal.weeks (t'.secondsAndNanos.1 + offset.seconds) unit =
        LocalTime.beginning? cal.weeks (t.secondsAndNanos.1 + offset.seconds) unit := by
  have hunit : unit ≠ .nanosecond := by
    rintro rfl
    cases hclock
  rw [startOf?_fixed hzone hunit, startOf?_fixed hzone hunit]
  constructor
  · intro h
    cases hb : LocalTime.beginning? cal.weeks (t.secondsAndNanos.1 + offset.seconds) unit with
    | none =>
      rw [hb, Option.map_none, Option.map_eq_none_iff] at h
      exact h
    | some b =>
      rw [hb, Option.map_some, Option.map_eq_some_iff] at h
      obtain ⟨b', hb', h⟩ := h
      simp only [hclock, Bool.false_eq_true, if_false] at h
      have hnear := Instant.natAbs_sub_lt_of_add_zero (natAbs_beginning_lt hb')
        (natAbs_beginning_lt hb) h
      rw [hb', Option.some_inj]
      -- both are midnights
      rw [LocalTime.beginning?_of_not_clock hclock, Option.map_eq_some_iff] at hb hb'
      obtain ⟨day, -, rfl⟩ := hb
      obtain ⟨day', -, rfl⟩ := hb'
      unfold secondsPerDay at *
      omega
  · intro h
    rw [h]

/-- **An instance of a unit is the instants of the days of a tile.** -/
theorem exists_span_eq_onDays {first : ℤ → ℤ}
    {h : ∀ k, first k < first (k + 1) ∧ first (k + 1) ≤ first k + 372}
    (hclock : unit.isClockUnit = false) (hT : unit.tiling? cal.weeks = some (.days first h))
    (t : Instant) : ∃ k, cal.span unit t = cal.onDays (Set.Ico (first k) (first (k + 1))) := by
  obtain ⟨k, hk⟩ := (Tiling.days first h).exists_covers (t.secondsAndNanos.1 + offset.seconds)
  refine ⟨k, ?_⟩
  ext t'
  have hmem : t' ∈ cal.onDays (Set.Ico (first k) (first (k + 1))) ↔
      (Tiling.days first h).Covers k (t'.secondsAndNanos.1 + offset.seconds) := by
    rw [Tiling.covers_days, ← dayNumber_fixed hzone]
    rfl
  obtain ⟨j, hj⟩ := (Tiling.days first h).exists_covers (t'.secondsAndNanos.1 + offset.seconds)
  show cal.startOf? unit t' = cal.startOf? unit t ↔ _
  rw [hmem, startOf?_eq_iff hzone hclock, LocalTime.beginning?_of_covers hT hk,
    LocalTime.beginning?_of_covers hT hj, Option.some_inj, (Tiling.strictMono _).injective.eq_iff]
  constructor
  · rintro rfl
    exact hj
  · intro hk'
    have hle := Tiling.covers_mono _ hj hk' le_rfl
    have hge := Tiling.covers_mono _ hk' hj le_rfl
    omega

/-- A day in the year before or after an inner instant has an instant, at its noon or near it. -/
theorem exists_instant_of_day (ht : t.IsInner) {day : ℤ}
    (hnear : (day - (cal.localTime t).dayNumber).natAbs ≤ 372) :
    ∃ t', (cal.localTime t').dayNumber = day := by
  have ho := offset.within_day
  rw [dayNumber_fixed hzone] at hnear
  unfold Instant.IsInner at ht
  unfold secondsPerDay at *
  obtain ⟨m, hm, hnoon⟩ := Instant.secondsAndNanos_near
    (n := day * 86400 + 43200 - offset.seconds) (by omega)
  refine ⟨.ofSeconds (day * 86400 + 43200 - offset.seconds), ?_⟩
  rw [dayNumber_fixed hzone, hm]
  unfold secondsPerDay
  omega

/-- **Every day of an instance that holds an inner instant has an instant.** -/
theorem exists_whole_span (ht : t.IsInner) {first : ℤ → ℤ}
    {h : ∀ k, first k < first (k + 1) ∧ first (k + 1) ≤ first k + 372}
    (hclock : unit.isClockUnit = false) (hT : unit.tiling? cal.weeks = some (.days first h)) :
    ∃ k, cal.span unit t = cal.onDays (Set.Ico (first k) (first (k + 1))) ∧
      ∀ day ∈ Set.Ico (first k) (first (k + 1)), ∃ t', (cal.localTime t').dayNumber = day := by
  obtain ⟨k, hspan⟩ := exists_span_eq_onDays hzone hclock hT t
  refine ⟨k, hspan, fun day hday => exists_instant_of_day hzone ht ?_⟩
  obtain ⟨hfirst, hnext⟩ : t ∈ cal.onDays _ := hspan ▸ cal.mem_span_self unit t
  obtain ⟨hfirst', hnext'⟩ := hday
  have hlong := (h k).2
  omega

omit hzone in
theorem image_onDays {days : Set ℤ} {f : Instant → Option ℤ} {g : ℤ → ℤ}
    (hdays : ∀ day ∈ days, ∃ t', (cal.localTime t').dayNumber = day)
    (hf : ∀ t' ∈ cal.onDays days, f t' = some (g (cal.localTime t').dayNumber)) :
    f '' cal.onDays days = some '' (g '' days) := by
  ext v
  constructor
  · rintro ⟨t', ht', rfl⟩
    rw [hf t' ht']
    exact ⟨_, ⟨_, ht', rfl⟩, rfl⟩
  · rintro ⟨-, ⟨day, hday, rfl⟩, rfl⟩
    obtain ⟨t', rfl⟩ := hdays day hday
    exact ⟨t', hday, hf t' hday⟩

end Calendar

end Almanac
