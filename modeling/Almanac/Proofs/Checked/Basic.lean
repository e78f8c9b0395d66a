import Mathlib
import Almanac.Binary64.Basic

/-!
# Calculations in 64 bits

Integers are unbounded elsewhere. Here a calculation is made step by step as a machine makes it,
with 64-bit integers, and comes to nothing if the exact result of a step does not fit or a divisor
is zero. The signs are the usual ones; `/` and `%` cut off towards zero, while the remainder of
`ediv` and `emod` is not negative.

* `Checked`: a calculation that may overflow, and its steps one after the other.
* `Checked.result`: a step, unless it leaves the range.
* `Checked.add_eq` and so on: **a step that fits has the exact result**.
-/

namespace Almanac

/-- What a calculation comes to: its value, or nothing if a step has overflowed. -/
inductive Checked (α : Type) where
  | value (a : α)
  | overflow
deriving DecidableEq

namespace Checked

variable {α β : Type}

/-- After an overflow, no step is taken. -/
def bind : Checked α → (α → Checked β) → Checked β
  | value a, f => f a
  | overflow, _ => overflow

instance : Monad Checked where
  pure := value
  bind := bind

@[simp]
theorem value_bind (a : α) (f : α → Checked β) : value a >>= f = f a := rfl

@[simp]
theorem map_value (f : α → β) (a : α) : f <$> value a = value (f a) := rfl

/-! ## Steps -/

instance : Coe ℤ (Checked ℤ) := ⟨value⟩

instance (n : ℕ) [OfNat ℤ n] : OfNat (Checked ℤ) n := ⟨value (OfNat.ofNat n)⟩

theorem ofNat_eq (n : ℕ) [OfNat ℤ n] :
    (no_index (OfNat.ofNat n) : Checked ℤ) = value (OfNat.ofNat n) := rfl

/-- The exact result of a step, unless it is no 64-bit integer. -/
def result (n : ℤ) : Checked ℤ :=
  if Binary64.int64Min ≤ n ∧ n ≤ Binary64.int64Max then value n else overflow

instance : Add (Checked ℤ) := ⟨fun x y => do result ((← x) + (← y))⟩

instance : Sub (Checked ℤ) := ⟨fun x y => do result ((← x) - (← y))⟩

instance : Mul (Checked ℤ) := ⟨fun x y => do result ((← x) * (← y))⟩

/-- A step with a divisor, which must not be zero. The least integer has no quotient by `-1`. -/
def divided (divide : ℤ → ℤ → ℤ) (x y : Checked ℤ) : Checked ℤ := do
  let dividend ← x
  let divisor ← y
  if divisor = 0 ∨ dividend = Binary64.int64Min ∧ divisor = -1 then overflow
  else value (divide dividend divisor)

instance : Div (Checked ℤ) := ⟨divided Int.tdiv⟩

instance : Mod (Checked ℤ) := ⟨divided Int.tmod⟩

/-- The quotient whose remainder is not negative. -/
def ediv (x y : Checked ℤ) : Checked ℤ := divided (· / ·) x y

/-- The remainder that is not negative. -/
def emod (x y : Checked ℤ) : Checked ℤ := divided (· % ·) x y

/-! ## Exact steps -/

section Exact

variable {a b n : ℤ}

/-- The range of 64-bit integers in numbers, which side conditions are proved in. -/
theorem result_eq (h : -9223372036854775808 ≤ n ∧ n ≤ 9223372036854775807) : result n = value n :=
  if_pos h

theorem add_eq (h : -9223372036854775808 ≤ a + b ∧ a + b ≤ 9223372036854775807) :
    value a + value b = value (a + b) := result_eq h

theorem sub_eq (h : -9223372036854775808 ≤ a - b ∧ a - b ≤ 9223372036854775807) :
    value a - value b = value (a - b) := result_eq h

theorem mul_eq (h : -9223372036854775808 ≤ a * b ∧ a * b ≤ 9223372036854775807) :
    value a * value b = value (a * b) := result_eq h

theorem divided_eq (divide : ℤ → ℤ → ℤ) (hb : 0 < b) :
    divided divide (value a) (value b) = value (divide a b) :=
  if_neg (by omega)

/-- Of a number that is not negative, both quotients are the same. -/
theorem div_eq (h : 0 ≤ a ∧ 0 < b) : value a / value b = value (a / b) := by
  rw [← Int.tdiv_eq_ediv_of_nonneg h.1]
  exact divided_eq _ h.2

theorem mod_eq (h : 0 ≤ a ∧ 0 < b) : value a % value b = value (a % b) := by
  rw [← Int.tmod_eq_emod_of_nonneg h.1]
  exact divided_eq _ h.2

theorem ediv_eq (hb : 0 < b) : ediv (value a) (value b) = value (a / b) := divided_eq _ hb

theorem emod_eq (hb : 0 < b) : emod (value a) (value b) = value (a % b) := divided_eq _ hb

end Exact

/-- The largest integer has no successor, and no integer a quotient by zero. -/
example : (Binary64.int64Max + 1 : Checked ℤ) = overflow ∧ (1 / 0 : Checked ℤ) = overflow := by
  decide

end Checked

end Almanac
