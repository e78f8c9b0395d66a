import Mathlib
import Almanac.Proofs.Instant.Rounding

/-!
# Seconds within an error

Each operation on binary64 numbers errs by little more than an hour of seconds, as long as its
result has at most 65 bits, and errors add up. So an instant stays near the second that exact
arithmetic leads to.

* `Binary64.Within`: a number is finite and within an error of a rational.
* `Binary64.two_pow_binaryExponent_le`: the exponent of a rational is not too large.
* **`Binary64.within_ofRat`**: the error of one rounding; `Binary64.Within.add`: errors add up.
* `Instant.seconds_near`: the second of an instant that is within an error of a second.
-/

namespace Almanac

namespace Binary64

/-- The number is finite, and its value is within `error` of `q`. -/
inductive Within (error q : ℚ) : Binary64 → Prop where
  | negativeZero (h : |0 - q| ≤ error) : Within error q negativeZero
  | finite {r : ℚ} (h : |r - q| ≤ error) : Within error q (finite r)

namespace Within

variable {error error' q q' : ℚ} {x y : Binary64}

theorem abs_toRat_sub_le (h : Within error q x) : |x.toRat - q| ≤ error := by
  cases h <;> assumption

theorem trans (h : Within error q x) (hq : |q - q'| ≤ error') : Within (error + error') q' x := by
  cases h with
  | negativeZero h => exact .negativeZero ((abs_sub_le _ q _).trans (add_le_add h hq))
  | finite h => exact .finite ((abs_sub_le _ q _).trans (add_le_add h hq))

theorem mono (h : Within error q x) (he : error ≤ error') : Within error' q x := by
  cases h with
  | negativeZero h => exact .negativeZero (h.trans he)
  | finite h => exact .finite (h.trans he)

theorem abs_toRat_le (h : Within error q x) : |x.toRat| ≤ |q| + error := by
  have hsub := h.abs_toRat_sub_le
  have htri := abs_sub_abs_le_abs_sub x.toRat q
  linarith

end Within

/-! ## One rounding -/

theorem natAbs_num_div_den (q : ℚ) : (q.num.natAbs : ℚ) / q.den = |q| := by
  rw [Nat.cast_natAbs, Int.cast_abs]
  conv_rhs => rw [← Rat.num_div_den q]
  rw [abs_div, Nat.abs_cast]

theorem two_pow_binaryExponent_le {q : ℚ} (hq : q ≠ 0) : (2 : ℚ) ^ binaryExponent q ≤ |q| := by
  simp only [binaryExponent, natAbs_num_div_den]
  split
  · assumption
  · have hnum : ((2 : ℚ) ^ q.num.natAbs.log2) ≤ q.num.natAbs := by
      exact_mod_cast Nat.log2_self_le (Int.natAbs_ne_zero.mpr (Rat.num_ne_zero.mpr hq))
    have hden : (q.den : ℚ) ≤ 2 ^ (q.den.log2 + 1) := by
      exact_mod_cast Nat.lt_log2_self.le
    have hpos : (0 : ℚ) < q.den := by exact_mod_cast q.den_pos
    calc (2 : ℚ) ^ ((q.num.natAbs.log2 : ℤ) - q.den.log2 - 1)
        = 2 ^ q.num.natAbs.log2 / 2 ^ (q.den.log2 + 1) := by
          rw [sub_sub, zpow_sub₀ (by norm_num), zpow_natCast]
          congr 1
      _ ≤ q.num.natAbs / q.den := div_le_div₀ (by positivity) hnum hpos hden
      _ = |q| := natAbs_num_div_den q

theorem binaryExponent_lt {q : ℚ} {k : ℤ} (hq : q ≠ 0) (h : |q| < 2 ^ k) : binaryExponent q < k :=
  (zpow_lt_zpow_iff_right₀ (by norm_num : (1 : ℚ) < 2)).mp ((two_pow_binaryExponent_le hq).trans_lt h)

theorem spacing_le {q : ℚ} (hq : |q| < 2 ^ 65) : spacing q ≤ 2 ^ 12 := by
  have hexponent : binaryExponent q < 65 := by
    by_cases h0 : q = 0
    · rw [h0]
      decide +kernel
    · exact binaryExponent_lt h0 (by exact_mod_cast hq)
  calc spacing q ≤ (2 : ℚ) ^ (12 : ℤ) := zpow_le_zpow_right₀ (by norm_num) (by omega)
    _ = 2 ^ 12 := by norm_num

theorem abs_nearest_sub_le {q : ℚ} (hq : |q| < 2 ^ 65) : |nearest q - q| ≤ 2 ^ 12 := by
  have hs := spacing_pos q
  have hsub : nearest q - q = (roundHalfEven (q / spacing q) - q / spacing q) * spacing q := by
    rw [nearest, sub_mul, div_mul_cancel₀ _ hs.ne']
  rw [hsub, abs_mul, abs_of_pos hs]
  exact (mul_le_of_le_one_left hs.le (abs_roundHalfEven_sub_le _)).trans (spacing_le hq)

theorem nearest_mem_overflowBound {q : ℚ} (hq : |q| < 2 ^ 65) :
    -overflowBound < nearest q ∧ nearest q < overflowBound := by
  refine abs_lt.mp ?_
  calc |nearest q| ≤ |nearest q - q| + |q| := by
        have h := abs_add_le (nearest q - q) q
        rwa [sub_add_cancel] at h
    _ < 2 ^ 12 + 2 ^ 65 := add_lt_add_of_le_of_lt (abs_nearest_sub_le hq) hq
    _ ≤ (2 : ℚ) ^ (66 : ℤ) := by norm_num
    _ ≤ overflowBound := zpow_le_zpow_right₀ (by norm_num) (by norm_num)

/-- **The error of one rounding.** -/
theorem within_ofRat {q : ℚ} (hq : |q| < 2 ^ 65) : Within (2 ^ 12) q (ofRat q) := by
  have hnear := abs_nearest_sub_le hq
  obtain ⟨hlow, hhigh⟩ := nearest_mem_overflowBound hq
  simp only [ofRat]
  split
  · rename_i hzero
    rw [hzero] at hnear
    unfold zero
    split
    · exact .negativeZero hnear
    · exact .finite hnear
  rw [if_neg (not_le.mpr hhigh), if_neg (not_le.mpr hlow)]
  exact .finite hnear

theorem within_ofInt {n : ℤ} (h : n.natAbs < 2 ^ 65) : Within (2 ^ 12) n (ofInt n) := by
  refine within_ofRat ?_
  rw [← Int.cast_abs, Int.abs_eq_natAbs]
  exact_mod_cast h

/-- **Errors add up**, and a sum is rounded once more. -/
theorem Within.add {error error' q q' : ℚ} {x y : Binary64} (hx : Within error q x)
    (hy : Within error' q' y) (h : |q| + error + (|q'| + error') < 2 ^ 65) :
    Within (2 ^ 12 + (error + error')) (q + q') (x + y) := by
  have hsum : |x.toRat + y.toRat - (q + q')| ≤ error + error' := by
    rw [add_sub_add_comm]
    exact (abs_add_le _ _).trans (add_le_add hx.abs_toRat_sub_le hy.abs_toRat_sub_le)
  have hrounded : Within (2 ^ 12 + (error + error')) (q + q') (ofRat (x.toRat + y.toRat)) := by
    refine (within_ofRat ?_).trans hsum
    have h₁ := hx.abs_toRat_le
    have h₂ := hy.abs_toRat_le
    have htri := abs_add_le x.toRat y.toRat
    linarith
  change Within _ _ (Binary64.add x y)
  cases hx with
  | finite => cases hy <;> exact hrounded
  | negativeZero =>
    cases hy with
    | finite => exact hrounded
    | negativeZero =>
      refine .negativeZero ?_
      simp only [toRat, add_zero] at hsum
      linarith

theorem within_nanos {n : ℤ} (h : n.natAbs ≤ 2 ^ 53) :
    Within (2 ^ 12) (n / nanosPerSecond) (ofInt n / ofInt nanosPerSecond) := by
  have hpos : (0 : ℚ) < nanosPerSecond := by norm_num [nanosPerSecond]
  have hone : (1 : ℚ) ≤ nanosPerSecond := by norm_num [nanosPerSecond]
  have hzero : (finite (nanosPerSecond : ℚ)).isZero = false := decide_eq_false hpos.ne'
  have hnegative : (finite (nanosPerSecond : ℚ)).isNegative = false :=
    decide_eq_false (not_lt.mpr hpos.le)
  rw [ofInt_eq_finite h, ofInt_eq_finite (by decide : nanosPerSecond.natAbs ≤ 2 ^ 53)]
  change Within _ _ (Binary64.div (finite n) (finite nanosPerSecond))
  simp only [Binary64.div, hzero, hnegative, Bool.false_eq_true, if_false]
  split
  · rename_i hn
    obtain hn : (n : ℚ) = 0 := of_decide_eq_true hn
    rw [hn, zero_div]
    exact .finite (by norm_num)
  · refine within_ofRat ?_
    rw [abs_div, abs_of_pos hpos]
    calc |(n : ℚ)| / nanosPerSecond ≤ |(n : ℚ)| := div_le_self (abs_nonneg _) hone
      _ < 2 ^ 65 := by
        rw [← Int.cast_abs, Int.abs_eq_natAbs]
        exact_mod_cast h.trans_lt (by norm_num)

theorem toInt64_floor {r : ℚ} (h : |r| < 2 ^ 62) :
    (finite r).floor.toInt64 = r.floor := by
  have hle : (r.floor : ℚ) ≤ r := Rat.le_floor_iff.mp le_rfl
  have hlt : r < ((r.floor + 1 : ℤ) : ℚ) := Rat.floor_lt_iff.mp (lt_add_one _)
  obtain ⟨hlow, hhigh⟩ := abs_lt.mp h
  have h₁ : ((-2 ^ 62 : ℤ) : ℚ) < ((r.floor + 1 : ℤ) : ℚ) := by
    push_cast at hlt ⊢
    exact hlow.trans hlt
  have h₂ : (r.floor : ℚ) < ((2 ^ 62 : ℤ) : ℚ) := by
    push_cast
    exact hle.trans_lt hhigh
  rw [Int.cast_lt] at h₁ h₂
  apply toInt64_finite_intCast
  · unfold int64Min
    omega
  · unfold int64Max
    omega

end Binary64

namespace Instant

theorem wholeSeconds_le (t : Instant) :
    t.wholeSeconds ≤ t.secondsAndNanos.1 ∧ t.secondsAndNanos.1 ≤ t.wholeSeconds + 1 := by
  simp only [secondsAndNanos, wholeSeconds]
  split <;> dsimp only <;> omega

theorem seconds_near {t : Instant} {n : ℤ} (h : Binary64.Within (2 ^ 15) n t.seconds)
    (hn : n.natAbs < 2 ^ 61) : (t.secondsAndNanos.1 - n).natAbs < 86400 := by
  have hwhole : (t.wholeSeconds : ℚ) ≤ t.seconds.toRat ∧
      t.seconds.toRat < t.wholeSeconds + 1 := by
    have hsmall : |t.seconds.toRat| < 2 ^ 62 := by
      have habs : |(n : ℚ)| < 2 ^ 61 := by
        rw [← Int.cast_abs, Int.abs_eq_natAbs]
        exact_mod_cast hn
      have hle := h.abs_toRat_le
      linarith
    obtain ⟨x⟩ := t
    cases h with
    | negativeZero => exact ⟨le_refl (0 : ℚ), show (0 : ℚ) < ((0 : ℤ) : ℚ) + 1 by norm_num⟩
    | @finite r =>
      have hle : (r.floor : ℚ) ≤ r := Rat.le_floor_iff.mp le_rfl
      have hlt : r < ((r.floor + 1 : ℤ) : ℚ) := Rat.floor_lt_iff.mp (lt_add_one _)
      have hfloor : (⟨.finite r⟩ : Instant).wholeSeconds = r.floor := Binary64.toInt64_floor hsmall
      rw [hfloor]
      push_cast at hlt
      exact ⟨hle, hlt⟩
  have herror := abs_le.mp h.abs_toRat_sub_le
  obtain ⟨h₁, h₂⟩ := t.wholeSeconds_le
  have hlow : ((-2 ^ 15 - 1 : ℤ) : ℚ) ≤ ((t.secondsAndNanos.1 - n : ℤ) : ℚ) := by
    have h₁' : (t.wholeSeconds : ℚ) ≤ t.secondsAndNanos.1 := by exact_mod_cast h₁
    push_cast
    linarith
  have hhigh : ((t.secondsAndNanos.1 - n : ℤ) : ℚ) ≤ ((2 ^ 15 + 1 : ℤ) : ℚ) := by
    have h₂' : (t.secondsAndNanos.1 : ℚ) ≤ t.wholeSeconds + 1 := by exact_mod_cast h₂
    push_cast
    linarith
  rw [Int.cast_le] at hlow hhigh
  omega

theorem within_ofSeconds {n : ℤ} (h : n.natAbs < 2 ^ 61) :
    Binary64.Within (2 ^ 12) n (ofSeconds n).seconds := Binary64.within_ofInt (by omega)

theorem within_add_ofInt {t : Instant} {n k : ℤ} (h : Binary64.Within (2 ^ 12) n t.seconds)
    (hn : n.natAbs < 2 ^ 61) (hk : k.natAbs < 2 ^ 61) :
    Binary64.Within (2 ^ 15) (n + k : ℤ) (t + Binary64.ofInt k).seconds := by
  have hn' : |(n : ℚ)| < 2 ^ 61 := by
    rw [← Int.cast_abs, Int.abs_eq_natAbs]
    exact_mod_cast hn
  have hk' : |(k : ℚ)| < 2 ^ 61 := by
    rw [← Int.cast_abs, Int.abs_eq_natAbs]
    exact_mod_cast hk
  have hsum := h.add (Binary64.within_ofInt (n := k) (by omega)) (by linarith)
  rw [← Int.cast_add] at hsum
  exact hsum.mono (by norm_num)

theorem within_add_nanos {t : Instant} {n k : ℤ} (h : Binary64.Within (2 ^ 12) n t.seconds)
    (hn : n.natAbs < 2 ^ 61) (hk : k.natAbs ≤ 10000000000000) :
    Binary64.Within (2 ^ 15) n
      (t + Binary64.ofInt k / Binary64.ofInt nanosPerSecond).seconds := by
  have hn' : |(n : ℚ)| < 2 ^ 61 := by
    rw [← Int.cast_abs, Int.abs_eq_natAbs]
    exact_mod_cast hn
  have hsmall : |(k : ℚ) / nanosPerSecond - 0| ≤ 10000 := by
    have hk' : |(k : ℚ)| ≤ 10000000000000 := by
      rw [← Int.cast_abs, Int.abs_eq_natAbs]
      exact_mod_cast hk
    have hpos : (0 : ℚ) < nanosPerSecond := by norm_num [nanosPerSecond]
    rw [sub_zero, abs_div, abs_of_pos hpos, div_le_iff₀ hpos]
    exact hk'.trans (by norm_num [nanosPerSecond])
  have hsum := h.add ((Binary64.within_nanos (n := k) (by omega)).trans hsmall) (by
    rw [abs_zero]
    linarith)
  rw [add_zero] at hsum
  exact hsum.mono (by norm_num)

end Instant

end Almanac
