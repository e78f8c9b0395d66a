import Mathlib
import Almanac.Binary64.Basic

/-!
# Integers without rounding

Integers of magnitude at most `2 ^ 53` are binary64 numbers, so operations whose results are such
integers are exact (**`ofInt_eq_finite`**).

* `roundHalfEven_intCast`: rounding leaves an integer alone.
* `nearest_intCast`: an integer of 53 bits is its own nearest number.
* `finite_add_finite` and `finite_sub_finite`: exact sums and differences.
-/

namespace Almanac

namespace Binary64

/-! ## Rounding -/

theorem roundHalfEven_intCast (n : ℤ) : roundHalfEven (n : ℚ) = n := by
  have h : (n : ℚ).floor = n := Rat.floor_intCast n
  simp only [roundHalfEven, h, sub_self]
  norm_num

theorem spacing_pos (q : ℚ) : 0 < spacing q := by
  unfold spacing
  positivity

/-- A multiple of the spacing around it is a number. -/
theorem nearest_of_eq_mul {q : ℚ} {m : ℤ} (h : q = m * spacing q) : nearest q = q := by
  have hm : q / spacing q = m := by
    rw [div_eq_iff (spacing_pos q).ne']
    exact h
  rw [nearest, hm, roundHalfEven_intCast, ← h]

/-- The exponent of an integer is the position of its highest bit. -/
theorem binaryExponent_intCast {n : ℤ} (hn : n ≠ 0) :
    binaryExponent (n : ℚ) = (n.natAbs.log2 : ℤ) := by
  have hone : Nat.log2 1 = 0 := by decide
  have hle : ((2 : ℚ) ^ ((n.natAbs.log2 : ℤ) - ((0 : ℕ) : ℤ))) ≤ (n.natAbs : ℚ) / ((1 : ℕ) : ℚ) := by
    have h := Nat.log2_self_le (Int.natAbs_ne_zero.mpr hn)
    rw [Nat.cast_zero, sub_zero, zpow_natCast, Nat.cast_one, div_one]
    exact_mod_cast h
  simp only [binaryExponent, Rat.num_intCast, Rat.den_intCast, hone]
  rw [if_pos hle]
  omega

/-- Around an integer of `53 + k` bits, numbers are `2 ^ k` apart. -/
theorem spacing_intCast {n : ℤ} {k : ℕ} (hn : n ≠ 0) (hk : n.natAbs.log2 = 52 + k) :
    spacing (n : ℚ) = 2 ^ k := by
  have hmax : max (binaryExponent (n : ℚ) - 52) (-1074) = (k : ℤ) := by
    rw [binaryExponent_intCast hn]
    omega
  rw [spacing, hmax, zpow_natCast]

theorem nearest_zero : nearest 0 = 0 := nearest_of_eq_mul (m := 0) (by simp)

theorem nearest_intCast {n : ℤ} (h : n.natAbs ≤ 2 ^ 53) : nearest (n : ℚ) = n := by
  by_cases hn : n = 0
  · rw [hn, Int.cast_zero, nearest_zero]
  have h0 : n.natAbs ≠ 0 := Int.natAbs_ne_zero.mpr hn
  have hl : n.natAbs.log2 < 54 := (Nat.log2_lt h0).mpr (by omega)
  by_cases hl' : n.natAbs.log2 = 53
  · have hself := Nat.log2_self_le h0
    rw [hl'] at hself
    have hm : n.natAbs = 2 ^ 53 := by omega
    have hs := spacing_intCast (k := 1) hn hl'
    rcases Int.natAbs_eq n with h1 | h1
    · refine nearest_of_eq_mul (m := 2 ^ 52) ?_
      rw [hs, h1, hm]
      norm_num
    · refine nearest_of_eq_mul (m := -2 ^ 52) ?_
      rw [hs, h1, hm]
      norm_num
  · have he := binaryExponent_intCast hn
    obtain ⟨k, hk⟩ : ∃ k : ℕ, max (binaryExponent (n : ℚ) - 52) (-1074) = -(k : ℤ) :=
      ⟨(-(max (binaryExponent (n : ℚ) - 52) (-1074))).toNat, by omega⟩
    refine nearest_of_eq_mul (m := n * 2 ^ k) ?_
    rw [spacing, hk, zpow_neg, zpow_natCast]
    push_cast
    field_simp

/-! ## Exact operations -/

theorem intCast_lt_overflowBound {n : ℤ} (h : n.natAbs ≤ 2 ^ 53) : (n : ℚ) < overflowBound := by
  have hn : n ≤ 2 ^ 53 := by omega
  calc (n : ℚ) ≤ 2 ^ (53 : ℤ) := by exact_mod_cast hn
    _ < overflowBound := zpow_lt_zpow_right₀ (by norm_num) (by norm_num)

theorem ofRat_intCast {n : ℤ} (h : n.natAbs ≤ 2 ^ 53) : ofRat n = finite n := by
  have hneg : (-n : ℤ).natAbs ≤ 2 ^ 53 := by omega
  have h1 := intCast_lt_overflowBound h
  have h2 := intCast_lt_overflowBound hneg
  push_cast at h2
  simp only [ofRat, nearest_intCast h]
  by_cases hn : n = 0
  · simp [hn, zero]
  · rw [if_neg (by exact_mod_cast hn), if_neg (by linarith), if_neg (by linarith)]

/-- **An integer of magnitude at most `2 ^ 53` is a binary64 number.** -/
theorem ofInt_eq_finite {n : ℤ} (h : n.natAbs ≤ 2 ^ 53) : ofInt n = finite n := ofRat_intCast h

theorem finite_add_finite {a b : ℤ} (h : (a + b).natAbs ≤ 2 ^ 53) :
    finite (a : ℚ) + finite (b : ℚ) = finite ((a + b : ℤ) : ℚ) := by
  rw [← ofRat_intCast h, Int.cast_add]
  rfl

theorem finite_sub_finite {a b : ℤ} (h : (a - b).natAbs ≤ 2 ^ 53) :
    finite (a : ℚ) - finite (b : ℚ) = finite ((a - b : ℤ) : ℚ) := by
  change add (finite (a : ℚ)) (neg (finite (b : ℚ))) = _
  by_cases hb : b = 0
  · subst hb
    have hz : neg (finite ((0 : ℤ) : ℚ)) = negativeZero := by simp [neg]
    rw [sub_zero] at h ⊢
    rw [hz]
    change ofRat (a + 0) = _
    rw [add_zero, ofRat_intCast h]
  · have hb' : (b : ℚ) ≠ 0 := by exact_mod_cast hb
    rw [← ofRat_intCast h, neg, if_neg hb', Int.cast_sub, sub_eq_add_neg]
    rfl

@[simp]
theorem floor_finite_intCast (n : ℤ) : (finite (n : ℚ)).floor = finite n := by
  have h : (n : ℚ).floor = n := Rat.floor_intCast n
  rw [floor, h]

theorem toInt64_finite_intCast {n : ℤ} (h₁ : int64Min ≤ n) (h₂ : n ≤ int64Max) :
    (finite (n : ℚ)).toInt64 = n := by
  have h : (n : ℚ).num.tdiv (n : ℚ).den = n := by simp
  rw [toInt64, h]
  omega

end Binary64

end Almanac
