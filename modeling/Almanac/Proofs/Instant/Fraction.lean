import Mathlib
import Almanac.Proofs.Instant.Within

/-!
# Fractions of a second

An instant is read to the nanosecond. Its fraction, the product with the nanoseconds of a second and
the nearest integer are rounded one after the other, and a fraction that comes out as a full second is
carried: shortly before a second, the instant is read as that second.

* `Binary64.le_nearest_iff`: from where on rationals are rounded to an even number or further.
* `Instant.RoundsUp`: the fraction is within `carryMargin` of the next second.
* `Instant.nanosPerSecond_le_iff`: these are the fractions whose nanoseconds make up a second.
* **`Instant.nanos_lt`**: what is left after that are fewer nanoseconds.
* **`Instant.second_eq`**: the second of an instant is the one before it, or then the next.
* `Instant.not_roundsUp_of_large`: far from the epoch no number lies so close to a second.
* `Instant.compare_ofSeconds_eq_gt_iff`: the order of instants and that of their values.
-/

namespace Almanac

namespace Binary64

/-! ## Exponents -/

theorem lt_two_pow_binaryExponent (q : ℚ) : |q| < 2 ^ (binaryExponent q + 1) := by
  simp only [binaryExponent, natAbs_num_div_den]
  split
  · have hnum : (q.num.natAbs : ℚ) < 2 ^ (q.num.natAbs.log2 + 1) := by
      exact_mod_cast Nat.lt_log2_self
    have hden : ((2 : ℚ) ^ q.den.log2) ≤ q.den := by
      exact_mod_cast Nat.log2_self_le q.den_pos.ne'
    calc |q| = q.num.natAbs / q.den := (natAbs_num_div_den q).symm
      _ < 2 ^ (q.num.natAbs.log2 + 1) / 2 ^ q.den.log2 :=
        div_lt_div₀ hnum hden (by positivity) (by positivity)
      _ = (2 : ℚ) ^ ((q.num.natAbs.log2 : ℤ) - q.den.log2 + 1) := by
        rw [sub_add_eq_add_sub, zpow_sub₀ (by norm_num), zpow_natCast]
        congr 1
  · rw [Int.sub_add_cancel]
    exact not_le.mp ‹_›

theorem le_binaryExponent {q : ℚ} {k : ℤ} (h : 2 ^ k ≤ |q|) : k ≤ binaryExponent q :=
  Int.lt_add_one_iff.mp <| (zpow_lt_zpow_iff_right₀ (by norm_num : (1 : ℚ) < 2)).mp
    (h.trans_lt (lt_two_pow_binaryExponent q))

theorem spacing_eq {q : ℚ} {k : ℤ} (hk : -1022 ≤ k) (h : 2 ^ k ≤ |q|) (h' : |q| < 2 ^ (k + 1)) :
    spacing q = 2 ^ (k - 52) := by
  have hq : q ≠ 0 := by
    rintro rfl
    rw [abs_zero] at h
    exact absurd h (not_le.mpr (by positivity))
  have hlow := le_binaryExponent h
  have hhigh := binaryExponent_lt hq h'
  rw [spacing, max_eq_left (by omega)]
  congr 1
  omega

/-! ## Where rounding goes up -/

/-- Rounding to an integer reaches an even one from half below it on. -/
theorem le_roundHalfEven_iff {q : ℚ} {n : ℤ} (hn : n % 2 = 0) :
    n ≤ roundHalfEven q ↔ (n : ℚ) - 1 / 2 ≤ q := by
  have hle : ((q.floor : ℤ) : ℚ) ≤ q := Rat.le_floor_iff.mp le_rfl
  have hlt : q < ((q.floor + 1 : ℤ) : ℚ) := Rat.floor_lt_iff.mp (lt_add_one q.floor)
  push_cast at hlt
  obtain hf | hf | hf : q.floor < n - 1 ∨ q.floor = n - 1 ∨ n ≤ q.floor := by omega
  · -- the integer after `q` is still below `n`
    have hf' : ((q.floor + 2 : ℤ) : ℚ) ≤ n := by
      rw [Int.cast_le]
      omega
    push_cast at hf'
    have hr : roundHalfEven q ≤ q.floor + 1 := roundHalfEven_le (by push_cast; exact hlt.le)
    exact iff_of_false (by omega) (by linarith)
  · -- `q` lies between the odd integer before `n` and `n`
    have hcast : (q.floor : ℚ) = n - 1 := by
      rw [hf]
      push_cast
      rfl
    have hodd : ¬ q.floor % 2 = 0 := by omega
    simp only [roundHalfEven, hcast, if_neg hodd]
    split
    · exact iff_of_false (by omega) (by linarith)
    · rw [ite_self]
      exact iff_of_true (by omega) (by linarith)
  · have hcast : (n : ℚ) ≤ q.floor := by exact_mod_cast hf
    exact iff_of_true (hf.trans (le_roundHalfEven hle)) (by linarith)

theorem nearest_le_two_pow {q : ℚ} {k : ℤ} (hk : -1074 ≤ k) (h0 : 0 ≤ q) (h : q < 2 ^ k) :
    nearest q ≤ 2 ^ k := by
  by_cases hq : q = 0
  · rw [hq, nearest_zero]
    positivity
  have hexponent : binaryExponent q < k := binaryExponent_lt hq (by rwa [abs_of_nonneg h0])
  obtain ⟨j, hj⟩ : ∃ j : ℕ, k = max (binaryExponent q - 52) (-1074) + j :=
    ⟨(k - max (binaryExponent q - 52) (-1074)).toNat, by omega⟩
  have hpow : (2 : ℚ) ^ k = 2 ^ j * spacing q := by
    rw [hj, zpow_add₀ (by norm_num), zpow_natCast, mul_comm, spacing]
  have hround : roundHalfEven (q / spacing q) ≤ 2 ^ j := by
    refine roundHalfEven_le ?_
    push_cast
    rw [div_le_iff₀ (spacing_pos q), ← hpow]
    exact h.le
  rw [nearest, hpow]
  refine mul_le_mul_of_nonneg_right ?_ (spacing_pos q).le
  exact_mod_cast hround

/-- **Rationals are rounded to an even number or further from half a spacing below it on.** -/
theorem le_nearest_iff {q : ℚ} {k n : ℤ} (hk : -1022 ≤ k) (hn : 2 ^ 52 < n) (heven : n % 2 = 0)
    (h0 : 0 ≤ q) (hq : q < 2 ^ (k + 1)) :
    n * (2 : ℚ) ^ (k - 52) ≤ nearest q ↔ ((n : ℚ) - 1 / 2) * 2 ^ (k - 52) ≤ q := by
  have hpos : (0 : ℚ) < 2 ^ (k - 52) := by positivity
  by_cases h : 2 ^ k ≤ q
  · rw [nearest, spacing_eq hk (by rwa [abs_of_nonneg h0]) (by rwa [abs_of_nonneg h0]),
      mul_le_mul_iff_left₀ hpos, Int.cast_le, le_roundHalfEven_iff heven, le_div_iff₀ hpos]
  · -- below the power of two, `q` is not rounded past it
    rw [not_le] at h
    have hpow : (2 : ℚ) ^ k = 2 ^ 52 * 2 ^ (k - 52) := by
      rw [zpow_sub₀ (by norm_num)]
      norm_num
      ring
    have hhalf : (2 : ℚ) ^ 52 < n - 1 / 2 := by
      have hcast : ((2 ^ 52 + 1 : ℤ) : ℚ) ≤ n := by exact_mod_cast hn
      push_cast at hcast
      linarith
    have hlow : (2 : ℚ) ^ k < (n - 1 / 2) * 2 ^ (k - 52) := by
      rw [hpow]
      exact mul_lt_mul_of_pos_right hhalf hpos
    have hnear : nearest q ≤ 2 ^ k := nearest_le_two_pow (by omega) h0 h
    refine iff_of_false (not_le.mpr ?_) (not_le.mpr (h.trans hlow))
    refine (hnear.trans_lt hlow).trans ?_
    exact mul_lt_mul_of_pos_right (by linarith) hpos

/-! ## Operations -/

theorem ofRat_of_nonneg {q : ℚ} (h0 : 0 ≤ q) (hq : q < 2 ^ 65) : ofRat q = finite (nearest q) := by
  obtain ⟨hlow, hhigh⟩ := nearest_mem_overflowBound (q := q) (by rwa [abs_of_nonneg h0])
  simp only [ofRat, if_neg (not_le.mpr hhigh), if_neg (not_le.mpr hlow),
    decide_eq_false (not_lt.mpr h0)]
  split
  · rename_i hzero
    rw [hzero]
    rfl
  · rfl

theorem finite_sub (q r : ℚ) : finite q - finite r = ofRat (q - r) := by
  change add (finite q) (neg (finite r)) = _
  rw [neg]
  split
  · rename_i hzero
    rw [hzero, sub_zero]
    change ofRat (q + 0) = _
    rw [add_zero]
  · rw [sub_eq_add_neg]
    rfl

theorem finite_mul {q r : ℚ} (hq : 0 ≤ q) (hr : 0 < r) : finite q * finite r = ofRat (q * r) := by
  have hnegative : (finite q).isNegative = false := decide_eq_false (not_lt.mpr hq)
  have hnegative' : (finite r).isNegative = false := decide_eq_false (not_lt.mpr hr.le)
  have hzero : (finite r).isZero = false := decide_eq_false hr.ne'
  change Binary64.mul (finite q) (finite r) = _
  simp only [Binary64.mul, hnegative, hnegative', hzero, Bool.or_false]
  split
  · rename_i h
    obtain rfl : q = 0 := of_decide_eq_true h
    rw [zero_mul, ofRat_of_nonneg le_rfl (by norm_num), nearest_zero]
    rfl
  · rfl

end Binary64

/-! ## Carried fractions -/

/-- How long before the next second a fraction is carried to it, in seconds: half a nanosecond, and
what rounding adds. -/
def carryMargin : ℚ := 9007201 / 2 ^ 54

namespace Instant

/-- Whether the instant is so shortly before a second that it is read as that one. -/
def RoundsUp (t : Instant) : Prop := 1 - carryMargin ≤ Int.fract t.seconds.toRat

instance (t : Instant) : Decidable t.RoundsUp := inferInstanceAs (Decidable (_ ≤ _))

/-- From one half on, rounded fractions are multiples of one spacing. -/
theorem exists_nearest_eq {f : ℚ} (h : 1 / 2 ≤ f) (h1 : f < 1) :
    ∃ m : ℤ, Binary64.nearest f = m * 2 ^ (-53 : ℤ) := by
  have habs : |f| = f := abs_of_nonneg (le_trans (by norm_num) h)
  refine ⟨Binary64.roundHalfEven (f / Binary64.spacing f), ?_⟩
  rw [Binary64.nearest, Binary64.spacing_eq (k := -1) (by norm_num) (by rw [habs]; norm_num; linarith)
    (by rw [habs]; norm_num; exact h1)]
  norm_num

section Nanoseconds

variable {f : ℚ} (h0 : 0 ≤ f) (h1 : f < 1)
include h0 h1

theorem nearest_mem : 0 ≤ Binary64.nearest f ∧ Binary64.nearest f ≤ 1 := by
  have h := Binary64.nearest_le_two_pow (k := 0) (by norm_num) h0 (by simpa using h1)
  exact ⟨Binary64.nearest_nonneg h0, by simpa using h⟩

theorem le_nanos_iff :
    (nanosPerSecond : ℚ) - 1 / 2 ≤ Binary64.nearest (Binary64.nearest f * nanosPerSecond) ↔
      ((2 ^ 53 - 4503600 : ℤ) : ℚ) * 2 ^ (-53 : ℤ) ≤ Binary64.nearest f := by
  obtain ⟨hx0, hx1⟩ := nearest_mem h0 h1
  have hproduct : (nanosPerSecond : ℚ) - 1 / 2 ≤
      Binary64.nearest (Binary64.nearest f * nanosPerSecond) ↔
        (nanosPerSecond : ℚ) - 1 / 2 - 1 / 2 ^ 24 ≤ Binary64.nearest f * nanosPerSecond := by
    have h := Binary64.le_nearest_iff (q := Binary64.nearest f * nanosPerSecond) (k := 29)
      (n := 1999999999 * 2 ^ 22) (by norm_num) (by norm_num) (by norm_num)
      (mul_nonneg hx0 (by norm_num [nanosPerSecond])) (by norm_num [nanosPerSecond]; linarith)
    convert h using 2 <;> norm_num [nanosPerSecond]
  rw [hproduct]
  by_cases hhalf : 1 / 2 ≤ f
  · -- only multiples of the spacing count, and the bound lies between two of them
    obtain ⟨m, hm⟩ := exists_nearest_eq hhalf h1
    rw [hm, mul_le_mul_iff_left₀ (by positivity), Int.cast_le]
    constructor
    · intro h
      by_contra hlt
      have hcast : (m : ℚ) ≤ ((2 ^ 53 - 4503601 : ℤ) : ℚ) := by
        rw [Int.cast_le]
        omega
      norm_num [nanosPerSecond] at h hcast
      linarith
    · intro h
      have hcast : ((2 ^ 53 - 4503600 : ℤ) : ℚ) ≤ m := by exact_mod_cast h
      norm_num [nanosPerSecond] at hcast ⊢
      linarith
  · have hx : Binary64.nearest f ≤ 2 ^ (-1 : ℤ) :=
      Binary64.nearest_le_two_pow (by norm_num) h0 (by norm_num; linarith)
    norm_num at hx
    refine iff_of_false ?_ ?_ <;> norm_num [nanosPerSecond] <;> linarith

/-- **Nanoseconds make up a second where the fraction is within the margin of it.** -/
theorem nanosPerSecond_le_iff :
    nanosPerSecond ≤ ⌊Binary64.nearest (Binary64.nearest f * nanosPerSecond) + 1 / 2⌋ ↔
      1 - carryMargin ≤ f := by
  have hfraction := Binary64.le_nearest_iff (q := f) (k := -1) (n := 2 ^ 53 - 4503600)
    (by norm_num) (by norm_num) (by norm_num) h0 (by norm_num; exact h1)
  rw [Int.le_floor, ← sub_le_iff_le_add, le_nanos_iff h0 h1]
  convert hfraction using 2 <;> norm_num [carryMargin]

theorem nanos_le :
    ⌊Binary64.nearest (Binary64.nearest f * nanosPerSecond) + 1 / 2⌋ ≤ nanosPerSecond := by
  obtain ⟨hx0, hx1⟩ := nearest_mem h0 h1
  have hbeyond := Binary64.le_nearest_iff (q := Binary64.nearest f * nanosPerSecond) (k := 29)
    (n := 2000000001 * 2 ^ 22) (by norm_num) (by norm_num) (by norm_num)
    (mul_nonneg hx0 (by norm_num [nanosPerSecond])) (by norm_num [nanosPerSecond]; linarith)
  rw [Int.floor_le_iff]
  by_contra hlt
  have hproduct := hbeyond.mp (by norm_num [nanosPerSecond] at hlt ⊢; linarith)
  norm_num [nanosPerSecond] at hproduct
  linarith

end Nanoseconds

theorem nanos_eq (q : ℚ) :
    ((.finite q - (Binary64.finite q).floor : Binary64) * .ofInt nanosPerSecond).round.toInt64 =
      ⌊Binary64.nearest (Binary64.nearest (Int.fract q) * nanosPerSecond) + 1 / 2⌋ := by
  obtain ⟨hx0, hx1⟩ := nearest_mem (Int.fract_nonneg q) (Int.fract_lt_one q)
  have hnanos : (0 : ℚ) < nanosPerSecond := by norm_num [nanosPerSecond]
  have hsub : (.finite q - (Binary64.finite q).floor : Binary64) =
      .finite (Binary64.nearest (Int.fract q)) := by
    change (.finite q - .finite (⌊q⌋ : ℚ) : Binary64) = _
    rw [Binary64.finite_sub, Int.self_sub_floor,
      Binary64.ofRat_of_nonneg (Int.fract_nonneg q) ((Int.fract_lt_one q).trans (by norm_num))]
  rw [hsub, Binary64.ofInt_eq_finite (by decide), Binary64.finite_mul hx0 hnanos]
  generalize Binary64.nearest (Int.fract q) = x at hx0 hx1
  have hp0 : 0 ≤ x * nanosPerSecond := mul_nonneg hx0 hnanos.le
  have hp1 : x * nanosPerSecond < 2 ^ (30 : ℤ) := by
    norm_num [nanosPerSecond]
    linarith
  rw [Binary64.ofRat_of_nonneg hp0 (hp1.trans (by norm_num))]
  have hy0 := Binary64.nearest_nonneg hp0
  have hy1 := Binary64.nearest_le_two_pow (by norm_num) hp0 hp1
  generalize Binary64.nearest (x * nanosPerSecond) = y at hy0 hy1
  have hfloor0 : 0 ≤ ⌊y + 1 / 2⌋ := Int.floor_nonneg.mpr (by linarith)
  have hfloor1 : ⌊y + 1 / 2⌋ ≤ 2 ^ 31 := by
    rw [Int.floor_le_iff]
    norm_num at hy1 ⊢
    linarith
  rw [Binary64.round, if_neg (not_lt.mpr hy0)]
  apply Binary64.toInt64_finite_intCast
  · exact le_trans (by decide) hfloor0
  · exact hfloor1.trans (by decide)

/-- **The nanoseconds of an instant are fewer than those of a second.** -/
theorem nanos_lt (t : Instant) : t.secondsAndNanos.2 < nanosPerSecond := by
  have hround : ((t.seconds - t.seconds.floor) * .ofInt nanosPerSecond).round.toInt64 ≤
      nanosPerSecond := by
    obtain ⟨x⟩ := t
    cases x with
    | nan => exact (by decide : (0 : ℤ) ≤ nanosPerSecond)
    | infinite negative => cases negative <;> decide +kernel
    | negativeZero => decide +kernel
    | finite q =>
      rw [nanos_eq]
      exact nanos_le (Int.fract_nonneg q) (Int.fract_lt_one q)
  simp only [secondsAndNanos]
  unfold nanosPerSecond at *
  split <;> dsimp only <;> omega

theorem floor_mem {t : Instant} (h : Binary64.Within (2 ^ 52) 0 t.seconds) :
    -2 ^ 52 ≤ ⌊t.seconds.toRat⌋ ∧ ⌊t.seconds.toRat⌋ ≤ 2 ^ 52 := by
  have hsmall := h.abs_toRat_sub_le
  rw [sub_zero] at hsmall
  obtain ⟨hlow, hhigh⟩ := abs_le.mp hsmall
  constructor
  · rw [Int.le_floor]
    push_cast
    exact hlow
  · rw [Int.floor_le_iff]
    push_cast
    linarith

/-- **The second of an instant is the one at or before it, or the next if that is within the
margin.** -/
theorem second_eq {t : Instant} (h : Binary64.Within (2 ^ 52) 0 t.seconds) :
    t.secondsAndNanos.1 = ⌊t.seconds.toRat⌋ + if t.RoundsUp then 1 else 0 := by
  have hsmall := h.abs_toRat_le
  obtain ⟨x⟩ := t
  cases h with
  | negativeZero => decide +kernel
  | @finite q =>
    rw [Binary64.toRat, abs_zero, zero_add] at hsmall
    have hwhole : (Binary64.finite q).floor.toInt64 = ⌊q⌋ :=
      Binary64.toInt64_floor (hsmall.trans_lt (by norm_num))
    have hcarry : nanosPerSecond ≤
        ⌊Binary64.nearest (Binary64.nearest (Int.fract q) * nanosPerSecond) + 1 / 2⌋ ↔
          (⟨.finite q⟩ : Instant).RoundsUp :=
      nanosPerSecond_le_iff (Int.fract_nonneg q) (Int.fract_lt_one q)
    change (secondsAndNanos ⟨.finite q⟩).1 = ⌊q⌋ + _
    simp only [secondsAndNanos, hwhole, nanos_eq, hcarry]
    by_cases hup : (⟨.finite q⟩ : Instant).RoundsUp
    · rw [if_pos hup, if_pos hup]
    · rw [if_neg hup, if_neg hup, add_zero]

/-- From 49 days off the epoch on, numbers are too far apart for one within the margin. -/
theorem not_roundsUp_of_large {t : Instant} (hlarge : 2 ^ 22 ≤ |t.seconds.toRat|)
    (hnumber : Binary64.nearest t.seconds.toRat = t.seconds.toRat) : ¬ t.RoundsUp := by
  rw [RoundsUp]
  generalize t.seconds.toRat = q at hlarge hnumber
  have hexponent : 22 ≤ Binary64.binaryExponent q :=
    Binary64.le_binaryExponent (by exact_mod_cast hlarge)
  obtain ⟨j, hj⟩ : ∃ j : ℕ, max (Binary64.binaryExponent q - 52) (-1074) = j + -30 :=
    ⟨(Binary64.binaryExponent q - 22).toNat, by omega⟩
  -- such a number is a whole multiple of `2 ^ -30`, and so is its fraction
  obtain ⟨m, hm⟩ : ∃ m : ℤ, q * 2 ^ 30 = m := by
    refine ⟨Binary64.roundHalfEven (q / Binary64.spacing q) * 2 ^ j, ?_⟩
    have hspacing : Binary64.spacing q * 2 ^ 30 = 2 ^ j := by
      rw [Binary64.spacing, hj, zpow_add₀ (by norm_num), zpow_natCast, mul_assoc]
      norm_num
    rw [Binary64.nearest] at hnumber
    push_cast
    rw [← hspacing, ← mul_assoc, hnumber]
  have hfract : Int.fract q * 2 ^ 30 = ((m - ⌊q⌋ * 2 ^ 30 : ℤ) : ℚ) := by
    rw [← Int.self_sub_floor, sub_mul, hm]
    push_cast
    rfl
  have hlt : m - ⌊q⌋ * 2 ^ 30 < 2 ^ 30 := by
    have hone := Int.fract_lt_one q
    rw [← @Int.cast_lt ℚ, ← hfract]
    push_cast
    linarith
  have hle : ((m - ⌊q⌋ * 2 ^ 30 : ℤ) : ℚ) ≤ ((2 ^ 30 - 1 : ℤ) : ℚ) := by
    rw [Int.cast_le]
    omega
  rw [← hfract] at hle
  norm_num [carryMargin] at hle ⊢
  linarith

end Instant

/-! ## Order -/

theorem Binary64.totalCompare_eq_gt_iff {x y : Binary64} {q r : ℚ} {i j : ℤ}
    (hx : x.rank = (0, q, i)) (hy : y.rank = (0, r, j)) :
    x.totalCompare y = .gt ↔ r < q ∨ q = r ∧ compare i j = .gt := by
  simp only [totalCompare, hx, hy, compareOfLessAndEq]
  obtain h | rfl | h := lt_trichotomy q r
  · simp [h, h.not_gt, h.ne]
  · simp
  · simp [h, h.not_gt, h.ne']

theorem Instant.compare_self (t : Instant) : compare t t = .eq := by
  change Binary64.totalCompare t.seconds t.seconds = .eq
  simp [Binary64.totalCompare, compareOfLessAndEq]

/-- A whole second is after an instant if its value is larger, and second `0` is after `-0`. -/
theorem Instant.compare_ofSeconds_eq_gt_iff {t : Instant} {n : ℤ} {error q : ℚ}
    (hn : n.natAbs ≤ 2 ^ 53) (ht : Binary64.Within error q t.seconds) :
    compare (ofSeconds n) t = .gt ↔ t.seconds.toRat < n ∨ t.seconds = .negativeZero ∧ n = 0 := by
  change Binary64.totalCompare (ofSeconds n).seconds t.seconds = .gt ↔ _
  rw [seconds_ofSeconds hn]
  obtain ⟨x⟩ := t
  cases ht with
  | negativeZero =>
    have hzeros : compare (1 : ℤ) 0 = .gt := rfl
    rw [Binary64.totalCompare_eq_gt_iff rfl rfl]
    simp [Binary64.toRat, hzeros]
  | @finite r =>
    rw [Binary64.totalCompare_eq_gt_iff rfl rfl]
    simp [Binary64.toRat]

end Almanac
