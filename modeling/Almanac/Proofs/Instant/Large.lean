import Mathlib
import Almanac.Instant.Exact

/-!
# Instants of large whole seconds

Beyond `2 ^ 53` not every integer is a binary64 number, but rounding does not bring one back below.
An instant whose second is smaller was therefore made from exactly that second.

* `le_roundHalfEven`, `roundHalfEven_le` and `le_abs_roundHalfEven`: rounding keeps integer bounds.
* `two_pow_le_nearest`: large integers stay large.
* `Instant.nanos_ofSeconds`: whole seconds have no nanoseconds.
* **`Instant.natAbs_le_of_secondsAndNanos`**: small seconds come from exact instants.
* `Instant.ofSeconds_inj` and `Instant.natAbs_le_of_add_zero`: an instant that is equal to one of a
  small second is of that second.
-/

namespace Almanac

namespace Binary64

theorem le_roundHalfEven {q : ℚ} {n : ℤ} (h : (n : ℚ) ≤ q) : n ≤ roundHalfEven q := by
  have hf : n ≤ q.floor := Rat.le_floor_iff.mpr h
  simp only [roundHalfEven]
  split
  · exact hf
  split
  · omega
  split <;> omega

theorem roundHalfEven_le {q : ℚ} {n : ℤ} (h : q ≤ n) : roundHalfEven q ≤ n := by
  by_cases hq : q = n
  · rw [hq, roundHalfEven_intCast]
  · have hf : q.floor < n := Rat.floor_lt_iff.mpr (lt_of_le_of_ne h hq)
    simp only [roundHalfEven]
    split
    · omega
    split
    · omega
    split <;> omega

theorem le_abs_roundHalfEven {q : ℚ} {b : ℤ} (h : (b : ℚ) ≤ |q|) : b ≤ |roundHalfEven q| := by
  rcases le_abs'.mp h with hneg | hpos
  · have hle : roundHalfEven q ≤ -b := by
      refine roundHalfEven_le ?_
      push_cast
      exact hneg
    exact le_abs'.mpr (Or.inl hle)
  · exact (le_roundHalfEven hpos).trans (le_abs_self _)

theorem two_pow_le_nearest {n : ℤ} (h : 2 ^ 53 ≤ n.natAbs) :
    ∃ m : ℤ, nearest (n : ℚ) = m ∧ 2 ^ 53 ≤ m.natAbs := by
  have h0 : n.natAbs ≠ 0 := by omega
  have hlog : 53 ≤ n.natAbs.log2 := (Nat.le_log2 h0).mpr h
  obtain ⟨k, hk⟩ : ∃ k : ℕ, n.natAbs.log2 = 52 + k := ⟨n.natAbs.log2 - 52, by omega⟩
  have hs := spacing_intCast (Int.natAbs_ne_zero.mp h0) hk
  have hquotient : (((2 ^ 52 : ℤ) : ℚ)) ≤ |(n : ℚ) / 2 ^ k| := by
    have hself := Nat.log2_self_le h0
    rw [hk, pow_add] at hself
    rw [abs_div, abs_of_nonneg (by positivity : (0 : ℚ) ≤ 2 ^ k), le_div_iff₀ (by positivity),
      ← Int.cast_abs, Int.abs_eq_natAbs]
    exact_mod_cast hself
  have htwo : (2 : ℤ) ≤ 2 ^ k := by
    calc (2 : ℤ) = 2 ^ 1 := by norm_num
      _ ≤ 2 ^ k := pow_le_pow_right₀ (by norm_num) (by omega)
  refine ⟨roundHalfEven (n / 2 ^ k) * 2 ^ k, by rw [nearest, hs]; push_cast; rfl, ?_⟩
  have hmul : (2 : ℤ) ^ 53 ≤ |roundHalfEven ((n : ℚ) / 2 ^ k) * 2 ^ k| := by
    rw [abs_mul, abs_of_nonneg (by positivity : (0 : ℤ) ≤ 2 ^ k)]
    calc (2 : ℤ) ^ 53 = 2 ^ 52 * 2 := by norm_num
      _ ≤ |roundHalfEven ((n : ℚ) / 2 ^ k)| * 2 ^ k :=
        mul_le_mul (le_abs_roundHalfEven hquotient) htwo (by norm_num) (abs_nonneg _)
  rw [Int.abs_eq_natAbs] at hmul
  exact_mod_cast hmul

end Binary64

namespace Instant

theorem secondsAndNanos_infinite (negative : Bool) :
    (⟨.infinite negative⟩ : Instant).secondsAndNanos =
      (if negative then Binary64.int64Min else Binary64.int64Max, 0) := by
  cases negative <;> decide +kernel

/-- A large second is held as an infinity or as a large integer. -/
theorem exists_seconds_of_large {n : ℤ} (h : 2 ^ 53 ≤ n.natAbs) :
    (∃ negative, (ofSeconds n).seconds = .infinite negative) ∨
      ∃ m : ℤ, (ofSeconds n).seconds = .finite (m : ℚ) ∧ 2 ^ 53 ≤ m.natAbs := by
  obtain ⟨m, hm, hbits⟩ := Binary64.two_pow_le_nearest h
  have hm0 : (m : ℚ) ≠ 0 := by
    have : m ≠ 0 := by
      rintro rfl
      norm_num at hbits
    exact_mod_cast this
  change (∃ negative, Binary64.ofRat (n : ℚ) = .infinite negative) ∨
    ∃ m : ℤ, Binary64.ofRat (n : ℚ) = .finite (m : ℚ) ∧ 2 ^ 53 ≤ m.natAbs
  simp only [Binary64.ofRat, hm, if_neg hm0]
  split
  · exact Or.inl ⟨_, rfl⟩
  split
  · exact Or.inl ⟨_, rfl⟩
  · exact Or.inr ⟨m, rfl, hbits⟩

theorem nanos_ofSeconds (n : ℤ) : (ofSeconds n).secondsAndNanos.2 = 0 := by
  by_cases hsmall : n.natAbs ≤ 2 ^ 53
  · rw [secondsAndNanos_ofSeconds hsmall]
  change (⟨(ofSeconds n).seconds⟩ : Instant).secondsAndNanos.2 = 0
  obtain ⟨negative, h⟩ | ⟨m, h, -⟩ := exists_seconds_of_large (n := n) (by omega)
  · rw [h, secondsAndNanos_infinite]
  · rw [h, secondsAndNanos_finite]

/-- **An instant of a small second was made from exactly that second.** -/
theorem natAbs_le_of_secondsAndNanos {n : ℤ}
    (h : (ofSeconds n).secondsAndNanos.1.natAbs < 2 ^ 53) : n.natAbs ≤ 2 ^ 53 := by
  by_contra hlarge
  refine absurd h (not_lt.mpr ?_)
  change 2 ^ 53 ≤ (⟨(ofSeconds n).seconds⟩ : Instant).secondsAndNanos.1.natAbs
  obtain ⟨negative, hs⟩ | ⟨m, hs, hbits⟩ := exists_seconds_of_large (n := n) (by omega)
  · rw [hs, secondsAndNanos_infinite]
    cases negative <;> decide
  · rw [hs, secondsAndNanos_finite]
    simp only [Binary64.toInt64, Binary64.int64Min, Binary64.int64Max, Rat.num_intCast,
      Rat.den_intCast, Nat.cast_one, Int.tdiv_one]
    omega

theorem ofSeconds_inj {m n : ℤ} (hn : n.natAbs < 2 ^ 53) (h : ofSeconds m = ofSeconds n) :
    m = n := by
  have hsplit := secondsAndNanos_ofSeconds (show n.natAbs ≤ 2 ^ 53 by omega)
  have hm : m.natAbs ≤ 2 ^ 53 := by
    refine natAbs_le_of_secondsAndNanos ?_
    rw [h, hsplit]
    exact hn
  rw [← h, secondsAndNanos_ofSeconds hm] at hsplit
  exact congrArg Prod.fst hsplit

/-- Adding nothing does not make a large second small. -/
theorem natAbs_le_of_add_zero {m n : ℤ} (hn : n.natAbs < 2 ^ 53)
    (h : ofSeconds m + Binary64.ofInt 0 = ofSeconds n) : m.natAbs ≤ 2 ^ 53 := by
  by_contra hlarge
  have hseconds := congrArg Instant.seconds h
  rw [seconds_ofSeconds (by omega)] at hseconds
  change Binary64.add (ofSeconds m).seconds (Binary64.ofInt 0) = .finite (n : ℚ) at hseconds
  rw [Binary64.ofInt_eq_finite (by decide)] at hseconds
  obtain ⟨negative, hs⟩ | ⟨m', hs, hbits⟩ := exists_seconds_of_large (n := m) (by omega)
  · rw [hs] at hseconds
    cases hseconds
  · rw [hs] at hseconds
    change Binary64.ofRat ((m' : ℚ) + ((0 : ℤ) : ℚ)) = _ at hseconds
    rw [← Int.cast_add, add_zero] at hseconds
    have hmn : ofSeconds m' = ofSeconds n :=
      congrArg Instant.mk (hseconds.trans (seconds_ofSeconds (by omega)).symm)
    have := ofSeconds_inj hn hmn
    omega

end Instant

end Almanac
