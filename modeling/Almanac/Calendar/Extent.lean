import Almanac.Calendar.LocalTime

/-!
# Ranges of values

* `ValueRange`: the values from a start up to, and without, an end.
* `commonRange` and `widestRange`: the values that a unit always has and those it can have.
* `Calendar.range?`: the values of a small unit inside the large one that holds an instant.
-/

namespace Almanac

/-- The integers from `start` on that are below `stop`. -/
structure ValueRange where
  start : Int
  stop : Int
deriving DecidableEq

/-- Values that the unit has in every instance of its container. -/
def commonRange : TimeUnit → ValueRange
  | .era => ⟨0, 2⟩
  | .year | .yearForWeekOfYear => ⟨1, 140743⟩
  | .quarter => ⟨1, 5⟩
  | .month => ⟨1, 13⟩
  | .weekOfMonth => ⟨1, 5⟩
  | .weekOfYear => ⟨1, 53⟩
  | .day => ⟨1, 29⟩
  | .weekday => ⟨1, 8⟩
  | .weekdayOrdinal => ⟨1, 5⟩
  | .hour => ⟨0, 24⟩
  | .minute | .second => ⟨0, 60⟩
  | .nanosecond => ⟨0, nanosPerSecond⟩

/-- Values that the unit has in some instance of its container. -/
def widestRange : TimeUnit → ValueRange
  | .year | .yearForWeekOfYear => ⟨1, 144684⟩
  | .weekOfMonth => ⟨1, 7⟩
  | .weekOfYear => ⟨1, 54⟩
  | .day => ⟨1, 32⟩
  | .weekdayOrdinal => ⟨1, 6⟩
  | unit => commonRange unit

namespace LocalTime

variable (l : LocalTime)

/-- The days of the quarter. -/
def quarterLength : Int :=
  let first := quarterStart l.date.month
  let (year, month) := foldMonth l.date.year (first + 3)
  Date.dayNumber ⟨year, month, 1⟩ - Date.dayNumber ⟨l.date.year, first, 1⟩

/-- The weeks of the year that the week belongs to: the number of its last day's week. -/
def weeksOfYear (weeks : WeekNumbering) : Int :=
  let weekYear := (l.weekOfYear weeks).2
  let lastDay := weeks.dayAt (Date.dayNumber ⟨weekYear + 1, 1, 1⟩) 1 none - 1
  let date := Date.ofDayNumber lastDay
  (weeks.weekOfYear date.year date.dayOfYear (weekdayOf lastDay)).1

/-- The values of a small unit inside a large one, where they are one run of integers. -/
def range? (weeks : WeekNumbering) (small large : TimeUnit) : Option ValueRange :=
  match small, large with
  | .year, .era => some (widestRange .year)
  | .quarter, .year => some ⟨1, 5⟩
  | .month, .year => some ⟨1, 13⟩
  | .month, .quarter => some ⟨quarterStart l.date.month, quarterStart l.date.month + 3⟩
  | .day, .year => some ⟨1, yearLength l.date.year + 1⟩
  | .day, .quarter => some ⟨1, l.quarterLength + 1⟩
  | .day, .month => some ⟨1, l.monthLength + 1⟩
  | .day, .weekOfMonth | .day, .weekOfYear =>
    let first := l.date.day - weeks.placeOf l.weekday
    some ⟨max first 1, min (first + 7) (l.monthLength + 1)⟩
  | .weekday, _ => some ⟨1, 8⟩
  | .weekdayOrdinal, .month => some ⟨1, (l.monthLength - 1) / 7 + 2⟩
  | .weekOfMonth, .month =>
    let first := l.dayNumber - l.date.day + 1
    let last := l.dayNumber - l.date.day + l.monthLength
    some ⟨weeks.weekAt 1 1 (weekdayOf first),
      weeks.weekAt l.monthLength l.monthLength (weekdayOf last) + 1⟩
  | .weekOfYear, .year | .weekOfYear, .yearForWeekOfYear => some ⟨1, l.weeksOfYear weeks + 1⟩
  | .hour, .day | .hour, .weekday => some ⟨0, 24⟩
  | .minute, .hour | .second, .minute => some ⟨0, 60⟩
  | .nanosecond, .second => some ⟨0, nanosPerSecond⟩
  | _, _ => none

end LocalTime

/-- The values that the small unit takes inside the large one that holds `t`. -/
def Calendar.range? (cal : Calendar) (small large : TimeUnit) (t : Instant) : Option ValueRange :=
  if large.contains small then (cal.localTime t).range? cal.weeks small large else none

end Almanac
