/-!
# Binary64 numbers

The floating-point numbers with a 53-bit significand. Every operation is carried out exactly on
rationals and rounded once, to the nearest number and on a tie to the even one.

* `Binary64`: a rational value, a negative zero, an infinity, or not a number (NaN).
* `Binary64.nearest`: rounds a rational to 53 significant bits, or to a multiple of `2 ^ -1074`
  where the number is tiny.
* `Binary64.ofRat`: the number for a rational, with overflow to infinity.
* `add`, `sub`, `mul`, `div`, `floor`, `round`: the rounded operations.
* `Binary64.toInt64`: the integer part, held inside the signed 64-bit range.
* `Binary64.totalCompare`: the order that also places `-0` before `0` and NaN at the ends.
-/

namespace Almanac

/-- A floating-point number. Zero with a plus sign is `finite 0`. A NaN has a sign and a fraction
field, which take part in the total order only. -/
inductive Binary64 where
  | nan (negative : Bool) (fraction : Nat)
  | infinite (negative : Bool)
  | negativeZero
  | finite (value : Rat)
deriving DecidableEq

namespace Binary64

instance : Inhabited Binary64 := ⟨finite 0⟩

/-- The result of operations that have none. Its fraction field has the leading bit alone. -/
def quietNan : Binary64 := nan false 2251799813685248

/-! ## Rounding -/

/-- The largest `e` with `2 ^ e ≤ |q|`, for `q` other than zero. -/
def binaryExponent (q : Rat) : Int :=
  let e : Int := (q.num.natAbs.log2 : Int) - q.den.log2
  if (2 : Rat) ^ e ≤ (q.num.natAbs : Rat) / q.den then e else e - 1

/-- The spacing of the numbers around `q`. -/
def spacing (q : Rat) : Rat :=
  (2 : Rat) ^ max (binaryExponent q - 52) (-1074)

/-- The nearest integer, a half going to the even neighbour. -/
def roundHalfEven (q : Rat) : Int :=
  let n := q.floor
  let r := q - n
  if r < 1 / 2 then n
  else if 1 / 2 < r then n + 1
  else if n % 2 = 0 then n else n + 1

/-- The nearest rational of 53 significant bits, exponents unbounded above. -/
def nearest (q : Rat) : Rat :=
  roundHalfEven (q / spacing q) * spacing q

/-- Magnitudes from here on are infinite. -/
def overflowBound : Rat := (2 : Rat) ^ (1024 : Int)

/-- A zero with the given sign. -/
def zero (negative : Bool) : Binary64 :=
  if negative then negativeZero else finite 0

/-- The number nearest to `q`. A negative rational too small for any other number gives `-0`. -/
def ofRat (q : Rat) : Binary64 :=
  let r := nearest q
  if r = 0 then zero (q < 0)
  else if overflowBound ≤ r then infinite false
  else if r ≤ -overflowBound then infinite true
  else finite r

/-- The number nearest to the integer `n`. -/
def ofInt (n : Int) : Binary64 := ofRat n

/-! ## Signs -/

/-- The rational value; zero where there is none. -/
def toRat : Binary64 → Rat
  | finite q => q
  | _ => 0

/-- Whether the sign is a minus. -/
def isNegative : Binary64 → Bool
  | nan negative _ => negative
  | infinite negative => negative
  | negativeZero => true
  | finite q => q < 0

/-- Whether the number is one of the two zeros. -/
def isZero : Binary64 → Bool
  | negativeZero => true
  | finite q => q = 0
  | _ => false

/-- The number with the other sign. -/
def neg : Binary64 → Binary64
  | nan negative fraction => nan (!negative) fraction
  | infinite negative => infinite !negative
  | negativeZero => finite 0
  | finite q => if q = 0 then negativeZero else finite (-q)

@[simp]
theorem neg_neg (x : Binary64) : x.neg.neg = x := by
  cases x with
  | finite q =>
    by_cases h : q = 0
    · simp [neg, h]
    · have h' : -q ≠ 0 := fun e => h (by rw [← Rat.neg_neg q, e]; rfl)
      simp [neg, h, h']
  | _ => simp [neg]

/-! ## Arithmetic -/

/-- The rounded sum. Only `-0 + -0` is `-0`. As in every operation, the first NaN is passed on. -/
def add : Binary64 → Binary64 → Binary64
  | nan s f, _ => nan s f
  | _, nan s f => nan s f
  | infinite a, infinite b => if a = b then infinite a else quietNan
  | infinite a, _ => infinite a
  | _, infinite b => infinite b
  | negativeZero, negativeZero => negativeZero
  | x, y => ofRat (x.toRat + y.toRat)

/-- The rounded difference. -/
def sub (x y : Binary64) : Binary64 := add x y.neg

/-- The rounded product. A zero product carries the product of the signs. -/
def mul (x y : Binary64) : Binary64 :=
  let negative := x.isNegative ^^ y.isNegative
  match x, y with
  | nan s f, _ => nan s f
  | _, nan s f => nan s f
  | infinite _, y => if y.isZero then quietNan else infinite negative
  | x, infinite _ => if x.isZero then quietNan else infinite negative
  | x, y => if x.isZero || y.isZero then zero negative else ofRat (x.toRat * y.toRat)

/-- The rounded quotient. -/
def div (x y : Binary64) : Binary64 :=
  let negative := x.isNegative ^^ y.isNegative
  match x, y with
  | nan s f, _ => nan s f
  | _, nan s f => nan s f
  | infinite _, infinite _ => quietNan
  | infinite _, _ => infinite negative
  | _, infinite _ => zero negative
  | x, y =>
    if y.isZero then (if x.isZero then quietNan else infinite negative)
    else if x.isZero then zero negative
    else ofRat (x.toRat / y.toRat)

instance : Add Binary64 := ⟨add⟩
instance : Sub Binary64 := ⟨sub⟩
instance : Mul Binary64 := ⟨mul⟩
instance : Div Binary64 := ⟨div⟩
instance : Neg Binary64 := ⟨neg⟩

/-! ## Integers -/

/-- The largest integer that is not above the number. -/
def floor : Binary64 → Binary64
  | finite q => finite q.floor
  | x => x

/-- The nearest integer, a half going away from zero. The sign is kept, so `-0.3` gives `-0`. -/
def round : Binary64 → Binary64
  | finite q =>
    if q < 0 then
      let n := (1 / 2 - q).floor
      if n = 0 then negativeZero else finite (-n)
    else finite (q + 1 / 2).floor
  | x => x

/-- The smallest signed 64-bit integer. -/
def int64Min : Int := -9223372036854775808

/-- The largest signed 64-bit integer. -/
def int64Max : Int := 9223372036854775807

/-- The number without its fraction, held inside the signed 64-bit range; zero for NaN. -/
def toInt64 : Binary64 → Int
  | nan _ _ => 0
  | infinite negative => if negative then int64Min else int64Max
  | negativeZero => 0
  | finite q => max int64Min (min int64Max (q.num.tdiv q.den))

theorem toInt64_mem (x : Binary64) : int64Min ≤ x.toInt64 ∧ x.toInt64 ≤ int64Max := by
  cases x with
  | infinite negative => cases negative <;> decide
  | finite q =>
    simp only [toInt64, int64Min, int64Max]
    omega
  | _ => simp [toInt64, int64Min, int64Max]

/-! ## Order -/

/-- Where a number stands: a coarse position, the value, and its place among those of one value:
which of the zeros it is, or how far out a NaN lies. -/
def rank : Binary64 → Int × Rat × Int
  | nan true fraction => (-2, 0, -fraction)
  | infinite true => (-1, 0, 0)
  | negativeZero => (0, 0, 0)
  | finite q => (0, q, 1)
  | infinite false => (1, 0, 0)
  | nan false fraction => (2, 0, fraction)

/-- The total order: by value, with `-0` before `0`, a NaN with a minus before everything else and
one without after it. Among NaN of one sign the larger fraction is further out. -/
def totalCompare (x y : Binary64) : Ordering :=
  let (a, q, s) := x.rank
  let (b, r, t) := y.rank
  (compare a b).then <| (compareOfLessAndEq q r).then (compare s t)

end Binary64

end Almanac
