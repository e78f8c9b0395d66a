import Mathlib
import Almanac.Proofs.Checked.Basic
import Almanac.Proofs.Instant.Rounding
import Almanac.Proofs.Zone.NextChange

/-!
# Wall clocks in 64 bits

The search for the next change of an offset and the resolution of a reading, step by step. With
offsets of less than a day, none of the steps overflows for readings of up to `8 * 10 ^ 17` seconds.

* `Checked.narrow`, `Checked.searchDays`, `Checked.nextChange`: the search for the next change.
* `Instant.wholeSeconds_near`: the seconds of an instant, up to rounding.
* `Checked.toUtc`: the second at which a clock shows a reading.
* **`Checked.toUtc_eq`**: it is the one that is found on unbounded integers.
-/

namespace Almanac

theorem Instant.wholeSeconds_near {n : ℤ} (h : n.natAbs < 10 ^ 18) :
    ((ofSeconds n).wholeSeconds - n).natAbs ≤ 2 ^ 12 := by
  obtain ⟨m, hm, hnear⟩ := Binary64.exists_ofInt_eq (show n.natAbs < 2 ^ 65 by omega)
  have hm64 : (Binary64.finite (m : ℚ)).toInt64 = m := by
    apply Binary64.toInt64_finite_intCast
    · unfold Binary64.int64Min
      omega
    · unfold Binary64.int64Max
      omega
  rwa [ofSeconds, hm, wholeSeconds, Binary64.floor_finite_intCast, hm64]

namespace Checked

/-! ## The next change -/

/-- Halves the window from `low` to `high` until it is one second wide. The middle is written out
after the step that makes it, so that the window is seen to shrink. -/
def narrow (total : ℤ → ℤ) (base low high : ℤ) : Checked ℤ := do
  let _ : ℤ ← high - low
  if 1 < high - low then
    let _ : ℤ ← low + (high - low) / 2
    let middle := low + (high - low) / 2
    if total middle = base then narrow total base middle high else narrow total base low middle
  else high
termination_by (high - low).toNat

theorem narrow_eq (total : ℤ → ℤ) (base : ℤ) {low high : ℤ} (hle : low ≤ high)
    (hlow : low.natAbs < 2 * 10 ^ 18) (hhigh : high.natAbs < 2 * 10 ^ 18) :
    narrow total base low high = value (Almanac.narrow total base low high) := by
  fun_induction Almanac.narrow total base low high with
  | case1 low high hwide middle hm ih =>
    rw [narrow]
    simp (disch := omega) only [ofNat_eq, sub_eq, add_eq, div_eq, value_bind]
    rw [if_pos hwide, if_pos hm]
    exact ih (by omega) (by omega) hhigh
  | case2 low high hwide middle hm ih =>
    rw [narrow]
    simp (disch := omega) only [ofNat_eq, sub_eq, add_eq, div_eq, value_bind]
    rw [if_pos hwide, if_neg hm]
    exact ih (by omega) hlow (by omega)
  | case3 low high hnarrow =>
    rw [narrow]
    simp (disch := omega) only [sub_eq, value_bind]
    rw [if_neg hnarrow]

/-- Looks for a value other than `base` at the ends of the next `days` days. -/
def searchDays (total : ℤ → ℤ) (base : ℤ) : ℕ → ℤ → Checked (Option ℤ)
  | 0, _ => value none
  | days + 1, low => do
    let high : ℤ ← low + secondsPerDay
    if total high = base then searchDays total base days high
    else some <$> narrow total base low high

theorem searchDays_eq (total : ℤ → ℤ) (base : ℤ) (days : ℕ) {low : ℤ}
    (h : low.natAbs + days * 86400 < 2 * 10 ^ 18) :
    searchDays total base days low = value (Almanac.searchDays total base days low) := by
  induction days generalizing low with
  | zero => rfl
  | succ days ih =>
    have hday : secondsPerDay = 86400 := rfl
    rw [searchDays, Almanac.searchDays]
    simp (disch := omega) only [add_eq, value_bind]
    split
    · exact ih (by omega)
    · rw [narrow_eq total base (by omega) (by omega) (by omega)]
      rfl

/-- The instant of the next change of a zone. -/
def nextChange (zone : Zone) (t : Instant) : Checked (Option Instant) :=
  match zone with
  | .fixed _ => value none
  | .region _ table => Option.map Instant.ofSeconds <$>
      searchDays table.totalAt (table.totalAt t.wholeSeconds) changeHorizon t.wholeSeconds

theorem nextChange_eq (zone : Zone) {t : Instant} (h : t.wholeSeconds.natAbs < 10 ^ 18) :
    nextChange zone t = value (zone.source.nextChange t) := by
  cases zone with
  | fixed offset => rfl
  | region name table =>
    have hdays : changeHorizon * 86400 = 1581120000 := rfl
    rw [nextChange, searchDays_eq _ _ _ (by rw [hdays]; omega), map_value]
    rfl

theorem nextChange_near (zone : Zone) {n : ℤ} (h : n.natAbs < 9 * 10 ^ 17) (change : Instant)
    (hchange : zone.source.nextChange (.ofSeconds n) = some change) :
    change.wholeSeconds.natAbs < 10 ^ 18 := by
  cases zone with
  | fixed offset => cases hchange
  | region name table =>
    have hstart := Instant.wholeSeconds_near (show n.natAbs < 10 ^ 18 by omega)
    obtain ⟨u, hu, rfl⟩ := Option.map_eq_some_iff.mp hchange
    obtain ⟨hmem, -⟩ := Almanac.searchDays_spec rfl hu
    have hdays : ((changeHorizon : ℕ) : ℤ) * secondsPerDay = 1581120000 := rfl
    rw [hdays] at hmem
    have hnear := Instant.wholeSeconds_near (show u.natAbs < 10 ^ 18 by omega)
    omega

/-! ## Readings -/

/-- The second at which a clock shows `reading`. -/
def toUtc (zone : Zone) (reading : ℤ) (resolution : Resolution) : Checked ℤ := do
  let dayBefore : ℤ ← reading - secondsPerDay
  let dayAfter : ℤ ← reading + secondsPerDay
  let before := zone.source.totalAt (.ofSeconds dayBefore)
  let after := zone.source.totalAt (.ofSeconds dayAfter)
  if before = after then reading - before
  else
    match ← nextChange zone (.ofSeconds dayBefore) with
    | none => reading - before
    | some change =>
      let second := change.wholeSeconds
      let wallBefore : ℤ ← second + before
      let wallAfter : ℤ ← second + after
      if reading < min wallBefore wallAfter then reading - before
      else if max wallBefore wallAfter ≤ reading then reading - after
      else
        match if after < before then resolution.repeated else resolution.skipped with
        | .former => reading - before
        | .latter => reading - after

/-- **No step of resolving a reading overflows.** -/
theorem toUtc_eq {zone : Zone} (hday : zone.source.WithinDay) {reading : ℤ}
    (h : reading.natAbs < 8 * 10 ^ 17) (resolution : Resolution) :
    toUtc zone reading resolution = value (zone.source.toUtc reading resolution) := by
  have hseconds : secondsPerDay = 86400 := rfl
  have hbefore := hday (.ofSeconds (reading - secondsPerDay))
  have hafter := hday (.ofSeconds (reading + secondsPerDay))
  have hstart := Instant.wholeSeconds_near (n := reading - secondsPerDay) (by omega)
  have hnear := nextChange_near zone (n := reading - secondsPerDay) (by omega)
  rw [toUtc]
  simp (disch := omega) only [sub_eq, add_eq, value_bind]
  rw [nextChange_eq zone (by omega), value_bind]
  simp only [OffsetSource.toUtc, OffsetSource.resolve]
  generalize zone.source.totalAt (.ofSeconds (reading - secondsPerDay)) = before,
    zone.source.totalAt (.ofSeconds (reading + secondsPerDay)) = after,
    zone.source.nextChange (.ofSeconds (reading - secondsPerDay)) = found at *
  split
  · rfl
  cases found with
  | none => rfl
  | some change =>
    have hsize := hnear change rfl
    simp (disch := omega) only [add_eq, value_bind, min_add_add_left, max_add_add_left]
    split
    · rfl
    split
    · rfl
    by_cases hback : after < before
    · simp only [if_pos hback]
      cases resolution.repeated <;> rfl
    · simp only [if_neg hback]
      cases resolution.skipped <;> rfl

end Checked

end Almanac
