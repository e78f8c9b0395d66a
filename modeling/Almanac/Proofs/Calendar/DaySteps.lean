import Mathlib
import Almanac.Proofs.WallClock.Resolve
import Almanac.Proofs.Calendar.LocalTime
import Almanac.Calendar.Add

/-!
# Steps of days, forth and back

A step of days or weeks moves the reading of the wall clock, and takes a second that shows the new
reading. The step back comes to the old reading again, but a reading may have two seconds or none.

* `TimeUnit.dayStep?`: the seconds by which a unit of days or weeks moves the reading.
* `Calendar.carry?_eq_toUtc`: where a step leads.
* `OffsetSource.secondsOf_eq_pair`, `OffsetSource.toUtc_of_skipped`: readings that occur twice and
  readings that are skipped.
* **`Calendar.add?_forth_back`**: forth and back lead to the first second of the reading; a step
  into a gap leads past it, by the length of the gap.
-/

namespace Almanac

/-- The seconds by which one of a unit moves the reading, for units of whole days. -/
def TimeUnit.dayStep? : TimeUnit → Option ℤ
  | .day | .weekday => some secondsPerDay
  | .weekOfYear | .weekOfMonth | .weekdayOrdinal => some (7 * secondsPerDay)
  | _ => none

/-- The readings up to a day either side are seconds that are held exactly. -/
def ExactAround (reading : ℤ) : Prop :=
  (reading - secondsPerDay).natAbs ≤ 2 ^ 53 ∧ (reading + secondsPerDay).natAbs ≤ 2 ^ 53

namespace OffsetSource

variable {source : OffsetSource} {reading u v : ℤ}

theorem natAbs_toUtc_le (hday : source.WithinDay) (hexact : ExactAround reading)
    (resolution : Resolution) : (source.toUtc reading resolution).natAbs ≤ 2 ^ 53 := by
  have hmem := toUtc_mem reading hday resolution
  unfold ExactAround at hexact
  omega

theorem natAbs_le_of_mem (hday : source.WithinDay) (hexact : ExactAround reading)
    (hu : u ∈ source.secondsOf reading) : u.natAbs ≤ 2 ^ 53 := by
  have hmem := secondsOf_mem hday hu
  unfold ExactAround at hexact
  omega

theorem secondsOf_eq_pair (hday : source.WithinDay) (hchange : source.ChangesAtMostOnce reading)
    (hv : v ∈ source.secondsOf reading) (hu : u ∈ source.secondsOf reading) (hlt : v < u) :
    source.secondsOf reading = {v, u} := by
  rcases hchange with ⟨offset, h⟩ | ⟨change, before, after, h⟩
  · rw [secondsOf_of_constant hday h, Set.mem_singleton_iff] at hu hv
    omega
  · rw [h.mem_secondsOf_iff hday] at hu hv
    obtain ⟨rfl, hbefore⟩ : v = reading - before ∧ v < change := by omega
    obtain ⟨rfl, hafter⟩ : u = reading - after ∧ change ≤ u := by omega
    ext w
    rw [h.mem_secondsOf_iff hday, Set.mem_insert_iff, Set.mem_singleton_iff]
    omega

/-- A skipped reading is resolved to a second that shows it late by the length of the gap. -/
theorem toUtc_of_skipped (hday : source.WithinDay) (hchange : source.ChangesAtMostOnce reading)
    (hnames : source.NamesChange reading) (hempty : source.secondsOf reading = ∅) :
    ∃ change before after, source.ChangesOnceAround reading change before after ∧
      (change + before ≤ reading ∧ reading < change + after) ∧
      source.toLocal (source.toUtc reading {}) = reading + (after - before) := by
  rcases hchange with ⟨offset, h⟩ | ⟨change, before, after, h⟩
  · rw [secondsOf_of_constant hday h] at hempty
    exact absurd hempty (Set.singleton_ne_empty _)
  · have hgap : change + before ≤ reading ∧ reading < change + after := by
      have hbefore : ¬ (reading - before < change) := by
        intro hlt
        have hmem : reading - before ∈ source.secondsOf reading :=
          (h.mem_secondsOf_iff hday).mpr (Or.inl ⟨rfl, hlt⟩)
        simp [hempty] at hmem
      have hafter : ¬ (change ≤ reading - after) := by
        intro hle
        have hmem : reading - after ∈ source.secondsOf reading :=
          (h.mem_secondsOf_iff hday).mpr (Or.inr ⟨rfl, hle⟩)
        simp [hempty] at hmem
      omega
    refine ⟨change, before, after, h, hgap, ?_⟩
    rw [toUtc, h.resolve_eq hnames, if_neg (by omega), if_neg (by omega), if_neg (by omega)]
    exact (h.toLocal_of_skipped hday hgap.1 hgap.2).1.2

end OffsetSource

namespace Calendar

variable {cal : Calendar} {unit : TimeUnit} {step amount u : ℤ}

theorem moveToDay_ofReading {reading days : ℤ}
    (hutc : (cal.zone.source.toUtc (reading + days * secondsPerDay) {}).natAbs ≤ 2 ^ 53) :
    cal.moveToDay (.ofReading reading) ((LocalTime.ofReading reading).dayNumber + days) =
      .ofSeconds (cal.zone.source.toUtc (reading + days * secondsPerDay) {}) := by
  have hr := LocalTime.reading_eq reading
  have hreading : ((LocalTime.ofReading reading).dayNumber + days) * secondsPerDay +
      (LocalTime.ofReading reading).secondOfDay = reading + days * secondsPerDay := by
    linarith
  have hnanosecond : (LocalTime.ofReading reading).nanosecond = 0 := rfl
  rw [moveToDay, hnanosecond, cal.instantOf_reading, hreading]
  rwa [hreading]

theorem carry?_eq_toUtc (hstep : unit.dayStep? = some step) (hu : u.natAbs ≤ 2 ^ 53)
    (hutc : (cal.zone.source.toUtc (cal.zone.source.toLocal u + step * amount) {}).natAbs ≤ 2 ^ 53) :
    cal.carry? unit amount (.ofSeconds u) =
      some (.ofSeconds (cal.zone.source.toUtc (cal.zone.source.toLocal u + step * amount) {})) := by
  have hmove : ∀ days, step * amount = days * secondsPerDay →
      cal.moveToDay (.ofReading (cal.zone.source.toLocal u))
          ((LocalTime.ofReading (cal.zone.source.toLocal u)).dayNumber + days) =
        .ofSeconds (cal.zone.source.toUtc (cal.zone.source.toLocal u + step * amount) {}) := by
    intro days hdays
    rw [hdays] at hutc ⊢
    exact moveToDay_ofReading hutc
  cases unit with
  | day | weekday =>
    obtain rfl := Option.some.inj hstep
    simp only [carry?, cal.localTime_ofSeconds hu]
    rw [hmove amount (mul_comm _ _)]
  | weekOfYear | weekOfMonth | weekdayOrdinal =>
    obtain rfl := Option.some.inj hstep
    simp only [carry?, cal.localTime_ofSeconds hu]
    rw [hmove (7 * amount) (by ring)]
  | _ => cases hstep

theorem add?_eq_toUtc (hday : cal.zone.source.WithinDay) (hstep : unit.dayStep? = some step)
    (hne : amount ≠ 0) (hamount : IsFieldSized amount) {reading : ℤ}
    (hu : u ∈ cal.zone.source.secondsOf reading) (hexact : ExactAround reading)
    (hexact' : ExactAround (reading + step * amount)) :
    cal.add? unit amount (.ofSeconds u) false =
      some (.ofSeconds (cal.zone.source.toUtc (reading + step * amount) {})) := by
  have hlocal : cal.zone.source.toLocal u = reading := hu
  subst hlocal
  rw [add?, if_neg hne, if_pos hamount]
  exact carry?_eq_toUtc hstep (OffsetSource.natAbs_le_of_mem hday hexact hu)
    (OffsetSource.natAbs_toUtc_le hday hexact' {})

/-- **Steps of days, forth and back.** If the moved reading occurs, the step back leads to the first
second of the old reading, which is another one only if the step began at the second pass of a fold.
If the moved reading is skipped, the step leads past it, by the length of the gap. -/
theorem add?_forth_back (hday : cal.zone.source.WithinDay) (hstep : unit.dayStep? = some step)
    (hne : amount ≠ 0) (hamount : IsFieldSized amount) {reading reading' : ℤ}
    (hu : cal.zone.source.toLocal u = reading) (hmoved : reading' = reading + step * amount)
    (hexact : ExactAround reading) (hexact' : ExactAround reading')
    (hchange : cal.zone.source.ChangesAtMostOnce reading)
    (hchange' : cal.zone.source.ChangesAtMostOnce reading') :
    ((cal.zone.source.secondsOf reading').Nonempty →
      ∃ m v, cal.add? unit amount (.ofSeconds u) false = some (.ofSeconds m) ∧
        cal.zone.source.toLocal m = reading' ∧
        cal.add? unit (-amount) (.ofSeconds m) false = some (.ofSeconds v) ∧
        IsLeast (cal.zone.source.secondsOf reading) v ∧
        (v = u ∨ v < u ∧ cal.zone.source.secondsOf reading = {v, u})) ∧
    (cal.zone.source.secondsOf reading' = ∅ →
      ∃ m change before after, cal.add? unit amount (.ofSeconds u) false = some (.ofSeconds m) ∧
        cal.zone.source.ChangesOnceAround reading' change before after ∧
        (change + before ≤ reading' ∧ reading' < change + after) ∧
        cal.zone.source.toLocal m = reading' + (after - before)) := by
  have hnames := cal.zone.namesChange hexact.1 hexact.2
  have hnames' := cal.zone.namesChange hexact'.1 hexact'.2
  have hforth := add?_eq_toUtc hday hstep hne hamount hu hexact (hmoved ▸ hexact')
  rw [← hmoved] at hforth
  constructor
  · intro hoccurs
    have hm := ((OffsetSource.toUtc_isLeast_or_isGreatest hday hchange' hnames' hoccurs {}).1 rfl).1
    have hleast := (OffsetSource.toUtc_isLeast_or_isGreatest hday hchange hnames ⟨u, hu⟩ {}).1 rfl
    have hback : reading' + step * -amount = reading := by
      rw [hmoved]
      ring
    have hstepBack := add?_eq_toUtc hday hstep (neg_ne_zero.mpr hne) (by
      unfold IsFieldSized at *
      omega) hm hexact' (by rwa [hback])
    rw [hback] at hstepBack
    refine ⟨_, _, hforth, hm, hstepBack, hleast, ?_⟩
    rcases (hleast.2 hu).eq_or_lt with heq | hlt
    · exact Or.inl heq
    · exact Or.inr ⟨hlt, OffsetSource.secondsOf_eq_pair hday hchange hleast.1 hu hlt⟩
  · intro hskipped
    obtain ⟨change, before, after, h, hgap, hlate⟩ :=
      OffsetSource.toUtc_of_skipped hday hchange' hnames' hskipped
    exact ⟨_, change, before, after, hforth, h, hgap, hlate⟩

/-- From the second 02:30 in Berlin on the day that the clock is set back, a week forth and back
leads to the first 02:30. -/
theorem add?_forth_back_berlin :
    let cal : Calendar := ⟨⟨2, 4, by decide, by decide⟩, .region "Europe/Berlin" Region.berlin⟩
    ∃ m, cal.add? .weekOfYear 1 (.ofSeconds 1603589400) false = some (.ofSeconds m) ∧
      cal.add? .weekOfYear (-1) (.ofSeconds m) false = some (.ofSeconds 1603585800) := by
  intro cal
  have hday : cal.zone.source.WithinDay :=
    OffsetTable.withinDay_source (by decide +kernel : Region.berlin.WithinDay)
  have hlocal : cal.zone.source.toLocal 1603589400 = 1603593000 := by
    rw [OffsetSource.toLocal]
    change 1603589400 + Region.berlin.source.totalAt _ = _
    rw [OffsetTable.totalAt_source Region.berlin (by decide)]
    decide +kernel
  have hchange : cal.zone.source.ChangesOnceAround 1603593000 1603587600 7200 3600 :=
    OffsetTable.changesOnceAround_source (by decide) (by decide +kernel) (by decide +kernel)
      (by decide +kernel) (by decide) (by decide) (by decide)
  have hconstant : cal.zone.source.ConstantAround 1604197800 3600 :=
    OffsetTable.constantAround_source (by decide) (by decide +kernel) (by decide +kernel)
  obtain ⟨m, v, hforth, -, hback, hleast, -⟩ := (add?_forth_back hday
    (rfl : TimeUnit.weekOfYear.dayStep? = some _) one_ne_zero (by decide) hlocal
    (by decide : (1604197800 : ℤ) = 1603593000 + 7 * secondsPerDay * 1) ⟨by decide, by decide⟩
    ⟨by decide, by decide⟩ (Or.inr ⟨_, _, _, hchange⟩) (Or.inl ⟨_, hconstant⟩)).1 (by
      rw [OffsetSource.secondsOf_of_constant hday hconstant]
      exact Set.singleton_nonempty _)
  have hmem := (hchange.mem_secondsOf_iff hday).mp hleast.1
  have hle := hleast.2 ((hchange.mem_secondsOf_iff hday).mpr (Or.inl ⟨rfl, by decide⟩))
  obtain rfl : v = 1603585800 := by omega
  exact ⟨m, hforth, hback⟩

end Calendar

end Almanac
