import Mathlib
import Almanac.Binary64.Exact
import Almanac.Instant

/-!
# Instants of whole seconds

The instants of whole seconds of magnitude at most `2 ^ 53` hold their second exactly.

* `wholeSeconds_ofSeconds` and **`secondsAndNanos_ofSeconds`**: the second comes back, without
  nanoseconds.
* `ofSeconds_add_ofInt`: whole seconds add up.
-/

namespace Almanac

namespace Instant

theorem seconds_ofSeconds {n : ℤ} (h : n.natAbs ≤ 2 ^ 53) :
    (ofSeconds n).seconds = .finite (n : ℚ) := Binary64.ofInt_eq_finite h

theorem wholeSeconds_ofSeconds {n : ℤ} (h : n.natAbs ≤ 2 ^ 53) : (ofSeconds n).wholeSeconds = n := by
  rw [wholeSeconds, seconds_ofSeconds h, Binary64.floor_finite_intCast]
  apply Binary64.toInt64_finite_intCast
  · unfold Binary64.int64Min
    omega
  · unfold Binary64.int64Max
    omega

/-- An integer number of seconds has no nanoseconds. -/
theorem secondsAndNanos_finite (n : ℤ) :
    (⟨.finite (n : ℚ)⟩ : Instant).secondsAndNanos = ((Binary64.finite (n : ℚ)).toInt64, 0) := by
  have hz : (n - n).natAbs ≤ 2 ^ 53 := by
    rw [sub_self]
    norm_num
  have hn : nanosPerSecond.natAbs ≤ 2 ^ 53 := by
    unfold nanosPerSecond
    norm_num
  have hs : (.finite (n : ℚ) - .finite (n : ℚ) : Binary64) = .finite ((0 : ℤ) : ℚ) := by
    rw [Binary64.finite_sub_finite hz, sub_self]
  have hp : (.finite ((0 : ℤ) : ℚ) * .ofInt nanosPerSecond : Binary64).round.toInt64 = 0 := by
    rw [Binary64.ofInt_eq_finite hn]
    decide +kernel
  simp only [secondsAndNanos, Binary64.floor_finite_intCast, hs, hp]
  rw [if_neg (by unfold nanosPerSecond; norm_num)]

/-- **A whole second splits into itself and no nanoseconds.** -/
theorem secondsAndNanos_ofSeconds {n : ℤ} (h : n.natAbs ≤ 2 ^ 53) :
    (ofSeconds n).secondsAndNanos = (n, 0) := by
  have hw := wholeSeconds_ofSeconds h
  rw [wholeSeconds, seconds_ofSeconds h, Binary64.floor_finite_intCast] at hw
  change (⟨(ofSeconds n).seconds⟩ : Instant).secondsAndNanos = (n, 0)
  rw [seconds_ofSeconds h, secondsAndNanos_finite, hw]

theorem ofSeconds_add_ofInt {a b : ℤ} (ha : a.natAbs ≤ 2 ^ 53) (hb : b.natAbs ≤ 2 ^ 53)
    (h : (a + b).natAbs ≤ 2 ^ 53) : ofSeconds a + Binary64.ofInt b = ofSeconds (a + b) := by
  change (⟨Binary64.ofInt a + Binary64.ofInt b⟩ : Instant) = ⟨Binary64.ofInt (a + b)⟩
  rw [Binary64.ofInt_eq_finite ha, Binary64.ofInt_eq_finite hb, Binary64.ofInt_eq_finite h,
    Binary64.finite_add_finite h]

end Instant

end Almanac
