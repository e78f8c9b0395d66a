import Almanac.Date
import Almanac.Zone.Change

/-!
# Offset changes that recur every year

* `Sunday`: the first, second or last Sunday of a month.
* `YearlyChange`: a change at a number of seconds from the beginning of such a day.
* `YearlyChange.spans`: the spans of several changes through a run of years.
-/

namespace Almanac

/-- Which Sunday of a month. -/
inductive Sunday where
  | first
  | second
  | last
deriving DecidableEq

/-- The day number of a Sunday of a month. -/
def Sunday.dayNumber (sunday : Sunday) (year month : Int) : Int :=
  let start := Date.dayNumber ⟨year, month, 1⟩
  let firstSunday := start + (1 - weekdayOf start) % 7
  match sunday with
  | first => firstSunday
  | second => firstSunday + 7
  | last => firstSunday + (monthLength year month - 1 - (firstSunday - start)) / 7 * 7

/-- Offsets that come into force every year, `seconds` after 00:00 UTC of a Sunday. -/
structure YearlyChange where
  sunday : Sunday
  month : Int
  seconds : Int
  offsets : Offsets

namespace YearlyChange

/-- The span that begins with the change in `year`. -/
def span (change : YearlyChange) (year : Int) : Span :=
  ⟨change.sunday.dayNumber year change.month * secondsPerDay + change.seconds, change.offsets⟩

/-- The spans of all changes of the years from `start` on, `years` of them. -/
def spans (changes : List YearlyChange) (start : Int) (years : Nat) : List Span :=
  (List.range years).flatMap fun (i : Nat) => changes.map (span · (start + i))

end YearlyChange

end Almanac
