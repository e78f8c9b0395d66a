import Mathlib
import Almanac.Proofs.Instant.Large

/-!
# Rounded seconds

What rounding keeps of the seconds of an instant, wherever they lie.

* `Binary64.IsNonnegative`: plus infinity and the values from zero on, which rounding keeps.
* **`Instant.nanos_nonneg`**: an instant has no negative nanoseconds.
* `Binary64.exists_ofInt_eq`: 64-bit seconds are rounded by little more than an hour.
* `Instant.secondsAndNanos_near` and **`Instant.natAbs_sub_lt_of_add_zero`**: so every day has an
  instant, and the midnights of different days stay different.
-/

namespace Almanac

namespace Binary64

/-! ## Signs -/

/-- The number is plus infinity or has a value that is not below zero. -/
def IsNonnegative : Binary64 → Prop
  | infinite negative => negative = false
  | finite q => 0 ≤ q
  | _ => False

theorem nearest_nonneg {q : ℚ} (h : 0 ≤ q) : 0 ≤ nearest q := by
  have hquotient : (((0 : ℤ) : ℚ)) ≤ q / spacing q := by
    rw [Int.cast_zero]
    exact div_nonneg h (spacing_pos q).le
  have hn : (0 : ℚ) ≤ roundHalfEven (q / spacing q) := by exact_mod_cast le_roundHalfEven hquotient
  exact mul_nonneg hn (spacing_pos q).le

theorem isNonnegative_ofRat {q : ℚ} (h : 0 ≤ q) : (ofRat q).IsNonnegative := by
  have hr : 0 ≤ nearest q := nearest_nonneg h
  have hbound : -overflowBound < nearest q := by
    have hpos : 0 < overflowBound := by
      unfold overflowBound
      positivity
    linarith
  simp only [ofRat]
  split
  · rw [decide_eq_false (not_lt.mpr h)]
    exact le_refl (0 : ℚ)
  split
  · rfl
  rw [if_neg (not_le.mpr hbound)]
  exact hr

theorem IsNonnegative.mul_finite {x : Binary64} {q : ℚ} (hx : x.IsNonnegative) (hq : 0 < q) :
    (x * finite q).IsNonnegative := by
  have hsign : (finite q).isNegative = false := decide_eq_false (not_lt.mpr hq.le)
  have hzero : (finite q).isZero = false := decide_eq_false hq.ne'
  change (Binary64.mul x (finite q)).IsNonnegative
  cases x with
  | infinite negative =>
    obtain rfl : negative = false := hx
    simp only [Binary64.mul, hzero, hsign]
    rfl
  | finite r =>
    have hr : 0 ≤ r := hx
    have hsign' : (finite r).isNegative = false := decide_eq_false (not_lt.mpr hr)
    simp only [Binary64.mul, hsign, hsign']
    split
    · exact le_refl (0 : ℚ)
    · exact isNonnegative_ofRat (mul_nonneg hr hq.le)
  | _ => exact hx.elim

theorem isNonnegative_sub_floor (q : ℚ) : (finite q - (finite q).floor).IsNonnegative := by
  have hle : ((q.floor : ℤ) : ℚ) ≤ q := Rat.le_floor_iff.mp le_rfl
  change (Binary64.add (finite q) (Binary64.neg (finite q.floor))).IsNonnegative
  rw [Binary64.neg]
  split
  · next hzero =>
    rw [hzero] at hle
    exact isNonnegative_ofRat (show 0 ≤ q + 0 by linarith)
  · exact isNonnegative_ofRat (show 0 ≤ q + -(q.floor : ℚ) by linarith)

theorem IsNonnegative.toInt64_round {x : Binary64} (h : x.IsNonnegative) : 0 ≤ x.round.toInt64 := by
  cases x with
  | infinite negative =>
    obtain rfl : negative = false := h
    decide
  | finite q =>
    have hq : 0 ≤ q := h
    have hfloor : 0 ≤ (q + 1 / 2).floor := Rat.le_floor_iff.mpr (by push_cast; linarith)
    simp only [round, if_neg (not_lt.mpr hq), toInt64, Rat.num_intCast,
      Rat.den_intCast, Nat.cast_one, Int.tdiv_one]
    unfold int64Min int64Max
    omega
  | _ => exact h.elim

/-! ## Distances -/

theorem abs_roundHalfEven_sub_le (q : ℚ) : |(roundHalfEven q : ℚ) - q| ≤ 1 := by
  have hle : ((q.floor : ℤ) : ℚ) ≤ q := Rat.le_floor_iff.mp le_rfl
  have hlt : q ≤ ((q.floor + 1 : ℤ) : ℚ) := (Rat.floor_lt_iff.mp (lt_add_one q.floor)).le
  have h₁ : (q.floor : ℚ) ≤ roundHalfEven q := by exact_mod_cast le_roundHalfEven hle
  have h₂ : (roundHalfEven q : ℚ) ≤ ((q.floor + 1 : ℤ) : ℚ) := by
    exact_mod_cast roundHalfEven_le hlt
  push_cast at hlt h₂
  rw [abs_le]
  constructor <;> linarith

theorem intCast_mem_overflowBound {m : ℤ} (h : m.natAbs < 2 ^ 66) :
    -overflowBound < (m : ℚ) ∧ (m : ℚ) < overflowBound := by
  have hbound : ((2 ^ 66 : ℤ) : ℚ) < overflowBound := by
    calc ((2 ^ 66 : ℤ) : ℚ) = 2 ^ (66 : ℤ) := by norm_num
      _ < overflowBound := zpow_lt_zpow_right₀ (by norm_num) (by norm_num)
  have h₁ : ((-2 ^ 66 : ℤ) : ℚ) < m := by
    rw [Int.cast_lt]
    omega
  have h₂ : (m : ℚ) < ((2 ^ 66 : ℤ) : ℚ) := by
    rw [Int.cast_lt]
    omega
  push_cast at *
  constructor <;> linarith

/-- Integers of up to 65 bits are rounded by a bit more than an hour of seconds at most. -/
theorem exists_ofInt_eq {n : ℤ} (h : n.natAbs < 2 ^ 65) :
    ∃ m : ℤ, ofInt n = finite m ∧ (m - n).natAbs ≤ 2 ^ 12 := by
  by_cases hexact : n.natAbs ≤ 2 ^ 53
  · exact ⟨n, ofInt_eq_finite hexact, by simp⟩
  have h0 : n.natAbs ≠ 0 := by omega
  have hlow : 53 ≤ n.natAbs.log2 := (Nat.le_log2 h0).mpr (by omega)
  have hhigh : n.natAbs.log2 < 65 := (Nat.log2_lt h0).mpr h
  obtain ⟨k, hk⟩ : ∃ k : ℕ, n.natAbs.log2 = 52 + k := ⟨n.natAbs.log2 - 52, by omega⟩
  have hs := spacing_intCast (Int.natAbs_ne_zero.mp h0) hk
  have hpow : (2 : ℤ) ^ k ≤ 2 ^ 12 := pow_le_pow_right₀ (by norm_num) (by omega)
  have hnearest : nearest (n : ℚ) = ((roundHalfEven (n / 2 ^ k) * 2 ^ k : ℤ) : ℚ) := by
    rw [nearest, hs]
    push_cast
    rfl
  have herror : |((roundHalfEven (n / 2 ^ k) * 2 ^ k - n : ℤ) : ℚ)| ≤ ((2 ^ k : ℤ) : ℚ) := by
    have hsub : ((roundHalfEven (n / 2 ^ k) * 2 ^ k - n : ℤ) : ℚ) =
        (roundHalfEven ((n : ℚ) / 2 ^ k) - n / 2 ^ k) * 2 ^ k := by
      push_cast
      rw [sub_mul, div_mul_cancel₀ _ (by positivity)]
    rw [hsub, abs_mul, abs_of_nonneg (by positivity : (0 : ℚ) ≤ 2 ^ k)]
    push_cast
    exact mul_le_of_le_one_left (by positivity) (abs_roundHalfEven_sub_le _)
  generalize roundHalfEven ((n : ℚ) / 2 ^ k) * 2 ^ k = m at hnearest herror
  have hm : (m - n).natAbs ≤ 2 ^ 12 := by
    have hcast : |m - n| ≤ 2 ^ k := by exact_mod_cast herror
    rw [Int.abs_eq_natAbs] at hcast
    omega
  have hm0 : (m : ℚ) ≠ 0 := by
    rw [Int.cast_ne_zero]
    omega
  have hbound := intCast_mem_overflowBound (show m.natAbs < 2 ^ 66 by omega)
  refine ⟨m, ?_, hm⟩
  rw [ofInt, ofRat, hnearest]
  simp only [if_neg hm0, if_neg (not_le.mpr hbound.1), if_neg (not_le.mpr hbound.2)]

end Binary64

namespace Instant

theorem nanos_nonneg (t : Instant) : 0 ≤ t.secondsAndNanos.2 := by
  have hround : 0 ≤ ((t.seconds - t.seconds.floor) * .ofInt nanosPerSecond).round.toInt64 := by
    obtain ⟨x⟩ := t
    cases x with
    | nan => exact le_refl (0 : ℤ)
    | infinite negative => cases negative <;> decide +kernel
    | negativeZero => decide +kernel
    | finite q =>
      refine Binary64.IsNonnegative.toInt64_round ?_
      rw [Binary64.ofInt_eq_finite (by decide)]
      exact (Binary64.isNonnegative_sub_floor q).mul_finite (by norm_num [nanosPerSecond])
  simp only [secondsAndNanos]
  split <;> dsimp only <;> omega

theorem secondsAndNanos_near {n : ℤ} (h : n.natAbs + 2 ^ 12 < 2 ^ 63) :
    ∃ m : ℤ, (ofSeconds n).secondsAndNanos = (m, 0) ∧ (m - n).natAbs ≤ 2 ^ 12 := by
  obtain ⟨m, hm, hnear⟩ := Binary64.exists_ofInt_eq (n := n) (by omega)
  refine ⟨m, ?_, hnear⟩
  have hm64 : (Binary64.finite (m : ℚ)).toInt64 = m := by
    apply Binary64.toInt64_finite_intCast
    · unfold Binary64.int64Min
      omega
    · unfold Binary64.int64Max
      omega
  rw [ofSeconds, hm, secondsAndNanos_finite, hm64]

/-- Rounding does not bring seconds together that are a day apart. -/
theorem natAbs_sub_lt_of_add_zero {a b : ℤ} (ha : a.natAbs < 2 ^ 64) (hb : b.natAbs < 2 ^ 64)
    (h : ofSeconds a + Binary64.ofInt 0 = ofSeconds b + Binary64.ofInt 0) :
    (a - b).natAbs < 86400 := by
  -- both sides are rounded twice, once as an integer and once as a sum
  have hround : ∀ n : ℤ, n.natAbs < 2 ^ 64 → ∃ m : ℤ,
      (ofSeconds n + Binary64.ofInt 0).seconds = .finite m ∧ (m - n).natAbs ≤ 2 ^ 13 := by
    intro n hn
    obtain ⟨m, hm, hnear⟩ := Binary64.exists_ofInt_eq (n := n) (by omega)
    obtain ⟨m', hm', hnear'⟩ := Binary64.exists_ofInt_eq (n := m) (by omega)
    refine ⟨m', ?_, by omega⟩
    change Binary64.ofInt n + Binary64.ofInt 0 = _
    rw [hm, Binary64.ofInt_eq_finite (by decide), ← hm']
    change Binary64.ofRat ((m : ℚ) + ((0 : ℤ) : ℚ)) = Binary64.ofRat m
    rw [Int.cast_zero, add_zero]
  obtain ⟨m, hm, hnear⟩ := hround a ha
  obtain ⟨m', hm', hnear'⟩ := hround b hb
  rw [h, hm', Binary64.finite.injEq, Int.cast_inj] at hm
  omega

end Instant

end Almanac
