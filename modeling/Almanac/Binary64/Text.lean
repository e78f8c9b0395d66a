import Almanac.Binary64.Numeral

/-!
# Decimal text of binary64 numbers

A number is written with the fewest digits that read back as the same number.

* `Decimal.shortest`: those digits; of several candidates the nearest, a tie settled as asked.
* `Decimal.positional`: digits and a point, without exponent and without a needless `.0`.
* `Decimal.mixed`: always with a point or an exponent; positional from `1e-5` up to `1e16`.
* `Binary64.positional`: the plain text of a number.
* `Binary64.mixed?`: the text of a finite number inside structured documents.
-/

namespace Almanac

namespace Decimal

/-- Which of two equally near digit strings is written. -/
inductive Tie where
  | up
  | even
deriving DecidableEq

/-- The largest `k` with `10 ^ k ≤ q`, for positive `q`. -/
def decimalExponent (q : Rat) : Int :=
  let k : Int := (Nat.toDigits 10 q.num.natAbs).length - (Nat.toDigits 10 q.den).length
  if (10 : Rat) ^ k ≤ q then k else k - 1

/-- Moves trailing zeros of the coefficient into the exponent. -/
def normalize (d : Decimal) : Decimal :=
  if h : d.coefficient ≠ 0 ∧ d.coefficient % 10 = 0 then
    normalize ⟨d.coefficient / 10, d.exponent + 1⟩
  else d
termination_by d.coefficient

/-- The decimal of `digits` digits nearest to the binary64 number `q` among those that read back
as `q`, if there is one. -/
def ofDigitCount? (tie : Tie) (q : Rat) (digits : Nat) : Option Decimal :=
  let unit := decimalExponent q - digits + 1
  let scaled := q / 10 ^ unit
  let below : Decimal := ⟨scaled.floor.toNat, unit⟩
  let above : Decimal := ⟨below.coefficient + 1, unit⟩
  let gap := scaled - below.coefficient
  let nearer :=
    if gap < 1 / 2 then [below, above]
    else if 1 / 2 < gap then [above, below]
    else match tie with
      | .up => [above, below]
      | .even => if below.coefficient % 2 = 0 then [below, above] else [above, below]
  nearer.find? fun d => Binary64.nearest d.toRat = q

/-- The fewest digits that read back as the positive binary64 number `q`. Seventeen digits
always do. -/
def shortest (tie : Tie) (q : Rat) : Decimal :=
  (((List.range' 1 17).findSome? (ofDigitCount? tie q)).getD ⟨q.floor.toNat, 0⟩).normalize

/-! ## Layout -/

/-- Digits with the point placed by the exponent; a zero stands before a leading point. -/
def positional (d : Decimal) : String :=
  let digits := Nat.toDigits 10 d.coefficient
  if 0 ≤ d.exponent then .ofList (digits ++ List.replicate d.exponent.toNat '0')
  else
    let places := (-d.exponent).toNat
    let padded := List.replicate (places + 1 - digits.length) '0' ++ digits
    let whole := padded.length - places
    .ofList (padded.take whole ++ '.' :: padded.drop whole)

/-- One digit before the point, then an exponent. -/
def scientific (d : Decimal) : String :=
  let digits := Nat.toDigits 10 d.coefficient
  let lead : Int := digits.length + d.exponent - 1
  let fraction := digits.drop 1
  .ofList (digits.take 1 ++ (if fraction = [] then [] else '.' :: fraction)) ++ "e" ++ toString lead

/-- Positional with at least one digit on each side of the point where the number lies between
`1e-5` and `1e16`, scientific elsewhere. -/
def mixed (d : Decimal) : String :=
  let point : Int := (Nat.toDigits 10 d.coefficient).length + d.exponent
  if -5 < point ∧ point ≤ 16 then
    if 0 ≤ d.exponent then d.positional ++ ".0" else d.positional
  else d.scientific

end Decimal

namespace Binary64

/-- Puts the sign of `q` before the text of its magnitude. -/
def signed (q : Rat) (magnitude : Rat → String) : String :=
  if q < 0 then "-" ++ magnitude (-q) else magnitude q

/-- The plain text: shortest digits, never an exponent, a tie going up. -/
def positional : Binary64 → String
  | nan _ _ => "NaN"
  | infinite negative => if negative then "-inf" else "inf"
  | negativeZero => "-0"
  | finite q => if q = 0 then "0" else signed q fun r => (Decimal.shortest .up r).positional

/-- The text inside structured documents, which have none for infinities and NaN. -/
def mixed? : Binary64 → Option String
  | nan _ _ => none
  | infinite _ => none
  | negativeZero => some "-0.0"
  | finite q =>
    some (if q = 0 then "0.0" else signed q fun r => (Decimal.shortest .even r).mixed)

end Binary64

end Almanac
