/-!
# Decimal numerals

ASCII digits, and integers written with them.

* `Numeral.ofDigits`: the number that a list of digits writes.
* `Numeral.integer?`: an integer inside given bounds, with at most one sign in front.
-/

namespace Almanac

namespace Numeral

/-- The value of one digit. -/
def digitValue (c : Char) : Nat := c.toNat - '0'.toNat

/-- The number written by `digits`, the most significant digit first. -/
def ofDigits (digits : List Char) : Nat :=
  digits.foldl (fun n c => 10 * n + digitValue c) 0

/-- Splits off one leading sign; the flag says that it is a minus. -/
def takeSign : List Char → Bool × List Char
  | '-' :: rest => (true, rest)
  | '+' :: rest => (false, rest)
  | rest => (false, rest)

/-- The number of a text of at least one digit and nothing else. -/
def natural? (text : List Char) : Option Nat :=
  if text ≠ [] ∧ text.all Char.isDigit then some (ofDigits text) else none

/-- The integer that `text` writes: at most one sign, then digits, the value between `least` and
`greatest`. -/
def integer? (least greatest : Int) (text : List Char) : Option Int := do
  let (negative, digits) := takeSign text
  let n ← natural? digits
  let value : Int := if negative then -n else n
  if least ≤ value ∧ value ≤ greatest then some value else none

end Numeral

end Almanac
