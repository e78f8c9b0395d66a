import Mathlib
import Almanac.Proofs.Calendar.DaySteps
import Almanac.Calendar.Start

/-!
# Where a local day begins

The start of a day is the second that its midnight is resolved to. A midnight that occurs is
resolved to its first second, and no instant before that is on the day. A midnight that is skipped
is resolved as far behind the change as it lies behind the reading at which the clock was set
forward: at the change only if it was set forward at midnight.

* `Calendar.BeginsDay`: the second at which a local day begins.
* `Calendar.dayNumber_eq_iff`: the instants of a day, by what the clock shows.
* `OffsetSource.le_of_le_toLocal`, `OffsetSource.ChangesOnceAround.change_le_of_le_toLocal`: nothing
  later than a reading is shown before its first second, or before the change that skips it.
* **`Calendar.startOf?_day_begins`**: where the start of a day is the beginning of the day.
-/

namespace Almanac

namespace OffsetSource

variable {source : OffsetSource} {reading change before after u v : ℤ}

/-- What is shown within a day before the first second of a reading is earlier than the reading. -/
theorem le_of_le_toLocal (hday : source.WithinDay) (hchange : source.ChangesAtMostOnce reading)
    (hv : IsLeast (source.secondsOf reading) v) (hu : reading ≤ source.toLocal u)
    (hwindow : reading - secondsPerDay ≤ u) : v ≤ u := by
  have hmem := secondsOf_mem hday hv.1
  by_contra hlt
  rcases hchange with ⟨offset, h⟩ | ⟨change, before, after, h⟩
  · have hv' := hv.1
    rw [secondsOf_of_constant hday h, Set.mem_singleton_iff] at hv'
    rw [toLocal, h u hwindow (by omega)] at hu
    omega
  · have hv' := (h.mem_secondsOf_iff hday).mp hv.1
    by_cases hside : u < change
    · rw [toLocal, h.totalAt_before u hwindow hside] at hu
      -- the reading is shown with the former offset too, and not later than at `u`
      have hfirst := hv.2 ((h.mem_secondsOf_iff hday).mpr (Or.inl ⟨rfl, by omega⟩))
      omega
    · rw [toLocal, h.totalAt_after u (by omega) (by omega)] at hu
      omega

namespace ChangesOnceAround

variable (h : source.ChangesOnceAround reading change before after)
include h

theorem toLocal_change : source.toLocal change = change + after := by
  rw [toLocal, h.totalAt_after change le_rfl h.change_le]

theorem secondsOf_eq_empty (hday : source.WithinDay) (h₁ : change + before ≤ reading)
    (h₂ : reading < change + after) : source.secondsOf reading = ∅ := by
  rw [h.secondsOf_eq hday, if_neg (by omega), if_neg (by omega), if_neg (by omega)]

theorem toUtc_of_gap (hnames : source.NamesChange reading) (h₁ : change + before ≤ reading)
    (h₂ : reading < change + after) : source.toUtc reading {} = reading - before := by
  rw [toUtc, h.resolve_eq hnames, if_neg (by omega), if_neg (by omega), if_neg (by omega)]
  rfl

theorem change_le_of_le_toLocal (h₁ : change + before ≤ reading) (hu : reading ≤ source.toLocal u)
    (hwindow : reading - secondsPerDay ≤ u) : change ≤ u := by
  by_contra hlt
  rw [toLocal, h.totalAt_before u hwindow (by omega)] at hu
  omega

end ChangesOnceAround

end OffsetSource

namespace Calendar

variable {cal : Calendar} {day s : ℤ} {t : Instant}

/-- The local day begins at second `s`: it holds `s` and no instant of an earlier second, and `s` is
its own start of the day. -/
structure BeginsDay (cal : Calendar) (day s : ℤ) : Prop where
  dayNumber_eq : (cal.localTime (.ofSeconds s)).dayNumber = day
  le_seconds : ∀ t, (cal.localTime t).dayNumber = day → s ≤ t.secondsAndNanos.1
  startOf?_self : cal.startOf? .day (.ofSeconds s) = some (.ofSeconds s)

theorem dayNumber_eq_iff : (cal.localTime t).dayNumber = day ↔
    day * secondsPerDay ≤ cal.zone.source.toLocal t.secondsAndNanos.1 ∧
      cal.zone.source.toLocal t.secondsAndNanos.1 < day * secondsPerDay + secondsPerDay := by
  change cal.zone.source.toLocal t.secondsAndNanos.1 / secondsPerDay = day ↔ _
  unfold secondsPerDay
  omega

theorem dayNumber_ofSeconds_iff {u : ℤ} (hu : u.natAbs ≤ 2 ^ 53) :
    (cal.localTime (.ofSeconds u)).dayNumber = day ↔
      day * secondsPerDay ≤ cal.zone.source.toLocal u ∧
        cal.zone.source.toLocal u < day * secondsPerDay + secondsPerDay := by
  rw [dayNumber_eq_iff, Instant.secondsAndNanos_ofSeconds hu]

theorem startOf?_day_eq (hday : cal.zone.source.WithinDay)
    (hexact : ExactAround (day * secondsPerDay)) (ht : (cal.localTime t).dayNumber = day) :
    cal.startOf? .day t =
      some (.ofSeconds (cal.zone.source.toUtc (day * secondsPerDay) {})) := by
  have hutc := OffsetSource.natAbs_toUtc_le hday hexact {}
  change some (cal.instantOf (cal.localTime t).dayNumber 0 0 {}) = _
  rw [ht, cal.instantOf_reading, add_zero]
  rwa [add_zero]

theorem beginsDay_iff (hday : cal.zone.source.WithinDay)
    (hexact : ExactAround (day * secondsPerDay))
    (hs : s = cal.zone.source.toUtc (day * secondsPerDay) {}) : cal.BeginsDay day s ↔
      (cal.localTime (.ofSeconds s)).dayNumber = day ∧
        ∀ t, (cal.localTime t).dayNumber = day → s ≤ t.secondsAndNanos.1 := by
  refine ⟨fun h => ⟨h.dayNumber_eq, h.le_seconds⟩, fun ⟨hnumber, hle⟩ => ⟨hnumber, hle, ?_⟩⟩
  rw [startOf?_day_eq hday hexact hnumber, hs]

theorem lt_seconds_of_dayNumber (hday : cal.zone.source.WithinDay)
    (ht : (cal.localTime t).dayNumber = day) :
    day * secondsPerDay - secondsPerDay < t.secondsAndNanos.1 := by
  have hoffset := hday (.ofSeconds t.secondsAndNanos.1)
  have hshown := (dayNumber_eq_iff.mp ht).1
  unfold OffsetSource.toLocal at hshown
  omega

theorem beginsDay_of_midnight (hday : cal.zone.source.WithinDay)
    (hexact : ExactAround (day * secondsPerDay))
    (hchange : cal.zone.source.ChangesAtMostOnce (day * secondsPerDay))
    (hoccurs : (cal.zone.source.secondsOf (day * secondsPerDay)).Nonempty) :
    cal.BeginsDay day (cal.zone.source.toUtc (day * secondsPerDay) {}) := by
  have hnames := cal.zone.namesChange hexact.1 hexact.2
  have hleast := (OffsetSource.toUtc_isLeast_or_isGreatest hday hchange hnames hoccurs {}).1 rfl
  have hutc := OffsetSource.natAbs_toUtc_le hday hexact {}
  refine (beginsDay_iff hday hexact rfl).mpr ⟨?_, fun t ht => ?_⟩
  · rw [dayNumber_ofSeconds_iff hutc, OffsetSource.mem_secondsOf.mp hleast.1]
    unfold secondsPerDay
    omega
  · exact OffsetSource.le_of_le_toLocal hday hchange hleast (dayNumber_eq_iff.mp ht).1
      (lt_seconds_of_dayNumber hday ht).le

/-- **Where a local day begins.** If midnight occurs, the day begins at its start. If midnight is
skipped, nothing on the day is before the change, and the start of the day comes after the change by
as much as midnight after the reading at which the clock is set forward. So it begins the day only
if the clock is set forward at midnight, by less than a day. -/
theorem startOf?_day_begins (hday : cal.zone.source.WithinDay)
    (ht : (cal.localTime t).dayNumber = day) (hexact : ExactAround (day * secondsPerDay))
    (hchange : cal.zone.source.ChangesAtMostOnce (day * secondsPerDay)) :
    ∃ s, cal.startOf? .day t = some (.ofSeconds s) ∧
      ((cal.zone.source.secondsOf (day * secondsPerDay)).Nonempty → cal.BeginsDay day s) ∧
      (cal.zone.source.secondsOf (day * secondsPerDay) = ∅ → ∃ change before after,
        cal.zone.source.ChangesOnceAround (day * secondsPerDay) change before after ∧
        (change + before ≤ day * secondsPerDay ∧ day * secondsPerDay < change + after) ∧
        s = change + (day * secondsPerDay - (change + before)) ∧
        (∀ t', (cal.localTime t').dayNumber = day → change ≤ t'.secondsAndNanos.1) ∧
        (change + after < day * secondsPerDay + secondsPerDay →
          (cal.localTime (.ofSeconds change)).dayNumber = day) ∧
        (cal.BeginsDay day s ↔
          change + before = day * secondsPerDay ∧ after - before < secondsPerDay)) := by
  refine ⟨_, startOf?_day_eq hday hexact ht, beginsDay_of_midnight hday hexact hchange,
    fun hempty => ?_⟩
  have hnames := cal.zone.namesChange hexact.1 hexact.2
  obtain ⟨change, before, after, h, hgap, hlate⟩ :=
    OffsetSource.toUtc_of_skipped hday hchange hnames hempty
  have hutc := h.toUtc_of_gap hnames hgap.1 hgap.2
  have hutc' := OffsetSource.natAbs_toUtc_le hday hexact {}
  have hsmall : change.natAbs ≤ 2 ^ 53 := by
    have h₁ := h.lt_change
    have h₂ := h.change_le
    unfold ExactAround at hexact
    omega
  have hfirst : ∀ t', (cal.localTime t').dayNumber = day → change ≤ t'.secondsAndNanos.1 :=
    fun t' ht' => h.change_le_of_le_toLocal hgap.1 (dayNumber_eq_iff.mp ht').1
      (lt_seconds_of_dayNumber hday ht').le
  have hon : change + after < day * secondsPerDay + secondsPerDay →
      (cal.localTime (.ofSeconds change)).dayNumber = day := by
    intro hshort
    rw [dayNumber_ofSeconds_iff hsmall, h.toLocal_change]
    omega
  refine ⟨change, before, after, h, hgap, by omega, hfirst, hon, ?_⟩
  rw [beginsDay_iff hday hexact rfl, dayNumber_ofSeconds_iff hutc', hlate]
  constructor
  · rintro ⟨hnumber, hle⟩
    have hbegin := hle (.ofSeconds change) (hon (by omega))
    rw [Instant.secondsAndNanos_ofSeconds hsmall] at hbegin
    omega
  · rintro ⟨hmidnight, hshort⟩
    refine ⟨by omega, fun t' ht' => ?_⟩
    have hle := hfirst t' ht'
    omega

/-- In Sao Paulo, the day on which the clock is set forward at midnight begins at 01:00. -/
theorem startOf?_day_begins_saoPaulo :
    let cal : Calendar := ⟨.sunday, .region "America/Sao_Paulo" Region.saoPaulo⟩
    cal.startOf? .day (.ofSeconds 1541340000) = some (.ofSeconds 1541300400) ∧
      cal.BeginsDay 17839 1541300400 := by
  intro cal
  have hday : cal.zone.source.WithinDay :=
    OffsetTable.withinDay_source (by decide +kernel : Region.saoPaulo.WithinDay)
  have ht : (cal.localTime (.ofSeconds 1541340000)).dayNumber = 17839 := by
    rw [dayNumber_ofSeconds_iff (by decide), OffsetSource.toLocal]
    change _ ≤ 1541340000 + Region.saoPaulo.source.totalAt _ ∧
      1541340000 + Region.saoPaulo.source.totalAt _ < _
    rw [OffsetTable.totalAt_source Region.saoPaulo (by decide)]
    decide +kernel
  have h : cal.zone.source.ChangesOnceAround (17839 * secondsPerDay) 1541300400 (-10800) (-7200) :=
    OffsetTable.changesOnceAround_source (by decide) (by decide +kernel) (by decide +kernel)
      (by decide +kernel) (by decide) (by decide) (by decide)
  obtain ⟨s, hs, -, hskipped⟩ :=
    startOf?_day_begins hday ht ⟨by decide, by decide⟩ (Or.inr ⟨_, _, _, h⟩)
  obtain ⟨change, before, after, h', -, rfl, -, -, hbegins⟩ := hskipped
    (h.secondsOf_eq_empty hday (by decide) (by decide))
  obtain rfl := h.change_unique h'
  have hbefore := h'.totalAt_before _ le_rfl h'.lt_change
  have hafter := h'.totalAt_after _ h'.change_le le_rfl
  rw [h.totalAt_before _ le_rfl h.lt_change] at hbefore
  rw [h.totalAt_after _ h.change_le le_rfl] at hafter
  subst hbefore hafter
  exact ⟨hs, hbegins.mpr ⟨by decide, by decide⟩⟩

/-- In Toronto, the clock was set forward from 23:30 on 30 March 1919 and skipped midnight. The next
day begins at the change, at 00:30, but its start is half an hour later. -/
theorem startOf?_day_late :
    let cal : Calendar := ⟨.sunday, .region "America/Toronto" Region.toronto⟩
    let midnight := -18539 * secondsPerDay
    cal.zone.source.ChangesOnceAround midnight (-1601753400) (-18000) (-14400) ∧
      cal.zone.source.secondsOf midnight = ∅ ∧
      (cal.localTime (.ofSeconds (-1601712000))).date =
        (cal.localTime (.ofSeconds (-1601753400))).date ∧
      cal.startOf? .day (.ofSeconds (-1601712000)) = some (.ofSeconds (-1601751600)) := by
  intro cal midnight
  have hday : cal.zone.source.WithinDay :=
    OffsetTable.withinDay_source (by decide +kernel : Region.toronto.WithinDay)
  have h : cal.zone.source.ChangesOnceAround midnight (-1601753400) (-18000) (-14400) :=
    OffsetTable.changesOnceAround_source (by decide) (by decide +kernel) (by decide +kernel)
      (by decide +kernel) (by decide) (by decide) (by decide)
  have hutc := h.toUtc_of_gap (cal.zone.namesChange (by decide) (by decide)) (by decide) (by decide)
  have ht : (cal.localTime (.ofSeconds (-1601712000))).dayNumber = -18539 := by decide +kernel
  refine ⟨h, h.secondsOf_eq_empty hday (by decide) (by decide), by decide +kernel, ?_⟩
  rw [startOf?_day_eq hday ⟨by decide, by decide⟩ ht, hutc]
  rfl

end Calendar

end Almanac
