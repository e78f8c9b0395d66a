import Almanac.Binary64.Basic

/-!
# The 64-bit words of binary64 numbers

A word holds a sign bit, eleven bits of exponent and 52 bits of fraction. An exponent field of
zeros marks the numbers below the least power of two that carries a full significand, a field of
ones marks infinities and NaN.

* `Binary64.ofBits`: the number of a word.
* `Binary64.toBits`: the word of a number.
-/

namespace Almanac

namespace Binary64

/-- How many fractions one exponent field has, for 52 bits. -/
def fractionCount : Nat := 4503599627370496

/-- How many exponent fields there are, for eleven bits. The last marks infinities and NaN. -/
def fieldCount : Nat := 2048

/-- The value of the sign bit. -/
def signBit : Nat := 9223372036854775808

/-- The number that a word stands for. -/
def ofBits (word : UInt64) : Binary64 :=
  let negative : Bool := signBit ≤ word.toNat
  let field : Nat := word.toNat / fractionCount % fieldCount
  let fraction : Nat := word.toNat % fractionCount
  if field + 1 = fieldCount then (if fraction = 0 then infinite negative else nan negative fraction)
  else
    let magnitude : Rat :=
      if field = 0 then (fraction : Rat) * (2 : Rat) ^ (-1074 : Int)
      else ((fractionCount + fraction : Nat) : Rat) * (2 : Rat) ^ ((field : Int) - 1075)
    if magnitude = 0 then zero negative
    else finite (if negative then -magnitude else magnitude)

/-- The word of a positive rational that is a binary64 number. A significand with its leading
bit adds one to the exponent field by itself. -/
def magnitudeBits (q : Rat) : Nat :=
  let e := max (binaryExponent q - 52) (-1074)
  (e + 1074).toNat * fractionCount + (q / (2 : Rat) ^ e).floor.toNat

/-- The word that stands for a number. -/
def toBits : Binary64 → UInt64
  | nan negative fraction =>
    .ofNat ((if negative then signBit else 0) + (fieldCount - 1) * fractionCount + fraction)
  | infinite negative => if negative then 0xfff0000000000000 else 0x7ff0000000000000
  | negativeZero => 0x8000000000000000
  | finite q =>
    if q = 0 then 0
    else if q < 0 then .ofNat (signBit + magnitudeBits (-q))
    else .ofNat (magnitudeBits q)

end Binary64

end Almanac
