import Almanac.Binary64.Basic
import Almanac.Numeral

/-!
# Reading binary64 numbers from decimal text

A numeral has an optional sign, digits with at most one point among or around them, and an
optional exponent. `inf`, `infinity` and `nan` are read in any letter case.

* `Decimal`: an integer coefficient times a power of ten.
* `Decimal.ofNumeral?`: the exact value that a numeral without its sign writes.
* `Binary64.ofNumeral?`: the number nearest to that value.
-/

namespace Almanac

/-- The number `coefficient * 10 ^ exponent`. -/
structure Decimal where
  coefficient : Nat
  exponent : Int
deriving DecidableEq

namespace Decimal

/-- The exact value. -/
def toRat (d : Decimal) : Rat := d.coefficient * 10 ^ d.exponent

/-- Reads the exponent part, which is empty or `e`, a sign and digits. -/
def exponent? : List Char → Option Int
  | [] => some 0
  | c :: rest =>
    if c = 'e' ∨ c = 'E' then
      let (negative, digits) := Numeral.takeSign rest
      (Numeral.natural? digits).map fun n => if negative then -(n : Int) else n
    else none

/-- Reads digits, a point with digits, and an exponent; at least one digit must stand before the
exponent. -/
def ofNumeral? (text : List Char) : Option Decimal := do
  let whole := text.takeWhile Char.isDigit
  let rest := text.dropWhile Char.isDigit
  let (fraction, rest) := match rest with
    | '.' :: rest => (rest.takeWhile Char.isDigit, rest.dropWhile Char.isDigit)
    | rest => ([], rest)
  if whole = [] ∧ fraction = [] then none
  else
    let e ← exponent? rest
    some ⟨Numeral.ofDigits (whole ++ fraction), e - fraction.length⟩

end Decimal

namespace Binary64

/-- Powers of ten at or above this one are infinite, and those at or below its inverse round to
zero. -/
def decimalHorizon : Int := 400

/-- The number nearest to `d`. A value beyond the horizon is settled without its power of ten. -/
def ofDecimal (d : Decimal) : Binary64 :=
  if d.coefficient = 0 then finite 0
  else
    let lead : Int := (Nat.toDigits 10 d.coefficient).length + d.exponent
    if decimalHorizon < lead then infinite false
    else if lead < -decimalHorizon then finite 0
    else ofRat d.toRat

/-- The infinities and NaN by name. -/
def named? (text : List Char) : Option Binary64 :=
  let lower := text.map Char.toLower
  if lower = "inf".toList ∨ lower = "infinity".toList then some (infinite false)
  else if lower = "nan".toList then some quietNan
  else none

/-- The number that `text` writes, rounded to nearest. -/
def ofNumeral? (text : String) : Option Binary64 :=
  let (negative, body) := Numeral.takeSign text.toList
  let magnitude := ((Decimal.ofNumeral? body).map ofDecimal).or (named? body)
  magnitude.map fun x => if negative then -x else x

end Binary64

end Almanac
