import Almanac.Date

/-!
# Week numbering

A week numbering says on which weekday weeks begin and how many days a week must have inside a
period to be the period's first one.

* `WeekNumbering`: the two values, each from `1` to `7`.
* `WeekNumbering.weekAt`: the week of a period that holds a given day; `0` before the first one.
* `WeekNumbering.weekOfYear`: the week and the year that the week belongs to.
* `WeekNumbering.dayAt`: the day of a weekday in a numbered week.
* `WeekNumbering.nthWeekday`: the `n`-th of a weekday in a month, from either end.
-/

namespace Almanac

/-- When weeks begin and which is the first of a period. -/
structure WeekNumbering where
  firstWeekday : Int
  minimumDays : Int
  firstWeekday_mem : 1 ≤ firstWeekday ∧ firstWeekday ≤ 7
  minimumDays_mem : 1 ≤ minimumDays ∧ minimumDays ≤ 7
deriving DecidableEq

namespace WeekNumbering

/-- Weeks begin on Sunday, and a single day makes a first week. -/
def sunday : WeekNumbering := ⟨1, 1, by decide, by decide⟩

instance : Inhabited WeekNumbering := ⟨sunday⟩

variable (weeks : WeekNumbering)

/-- The position of a weekday in the week, from `0`. -/
def placeOf (weekday : Int) : Int := (weekday - weeks.firstWeekday) % 7

theorem placeOf_mem (weekday : Int) : 0 ≤ weeks.placeOf weekday ∧ weeks.placeOf weekday < 7 := by
  unfold placeOf
  omega

/-- The week of a period that holds day `day`, where day `known` of the period falls on
`weekday`. -/
def weekAt (day known weekday : Int) : Int :=
  let start := (weekday - weeks.firstWeekday - known + 1) % 7
  (day + start - 1) / 7 + (if weeks.minimumDays ≤ 7 - start then 1 else 0)

/-- The week number of a day of `year` and the year that the week is counted in. Days before the
first week belong to the last week of the year before; a last week that is long enough in the next
year belongs to that one. -/
def weekOfYear (year dayOfYear weekday : Int) : Int × Int :=
  let length := yearLength year
  let position := weeks.placeOf weekday
  let week := weeks.weekAt dayOfYear dayOfYear weekday
  if week = 0 then
    let fromYearBefore := dayOfYear + yearLength (year - 1)
    (weeks.weekAt fromYearBefore fromYearBefore weekday, year - 1)
  else
    let lastPosition := (position + length - dayOfYear) % 7
    if length - 5 ≤ dayOfYear ∧ weeks.minimumDays ≤ 6 - lastPosition ∧
        length < dayOfYear + 7 - position then
      (1, year + 1)
    else (week, year)

/-- The day number of a weekday in week `week` of the period that begins on day `start`; without
a weekday, the first day of that week. -/
def dayAt (start week : Int) (weekday : Option Int) : Int :=
  let position := weeks.placeOf (weekdayOf start)
  let offset := match weekday with
    | some weekday => weeks.placeOf weekday
    | none => 0
  let skipped := if 7 - position < weeks.minimumDays then 7 else 0
  start - position + offset + skipped + 7 * (week - 1)

/-- The day number of the `ordinal`-th `weekday` of the month of `length` days that begins on day
`start`. Negative ordinals count from the end of the month. -/
def nthWeekday (start length ordinal weekday : Int) : Int :=
  let offset := weeks.placeOf weekday - weeks.placeOf (weekdayOf start)
  let first := if offset < 0 then offset + 8 else offset + 1
  let later := if 0 ≤ ordinal then ordinal - 1 else (length - first) / 7 + ordinal + 1
  start - 1 + first + 7 * later

/-- The first day of the week that holds day `number`. -/
def startOfWeek (number : Int) : Int := number - weeks.placeOf (weekdayOf number)

/-- Weeks begin on the first weekday. -/
theorem weekdayOf_startOfWeek (number : Int) :
    weekdayOf (weeks.startOfWeek number) = weeks.firstWeekday := by
  have h := weeks.firstWeekday_mem
  simp only [startOfWeek, placeOf, weekdayOf]
  omega

/-- A day lies in the seven days of its week. -/
theorem startOfWeek_mem (number : Int) :
    weeks.startOfWeek number ≤ number ∧ number < weeks.startOfWeek number + 7 := by
  have h := weeks.placeOf_mem (weekdayOf number)
  unfold startOfWeek
  omega

end WeekNumbering

end Almanac
