import Almanac.Calendar.LocalTime

/-!
# Positions of units in larger units

* `LocalTime.dayWithin?`: the day inside a larger unit, from `1`.
* `LocalTime.timeWithin?`: the hour, minute, second or nanosecond inside a larger unit.
* `Calendar.ordinality?`: the position of any unit inside a unit that contains it.
* `Calendar.ordinality`: the same with the cause of a failure.
-/

namespace Almanac

/-- The nanoseconds of a day. -/
def nanosPerDay : Int := secondsPerDay * nanosPerSecond

namespace LocalTime

variable (l : LocalTime)

/-- The position of the day inside a unit. Era `0` has no first day. -/
def dayWithin? (weeks : WeekNumbering) : TimeUnit → Option Int
  | .era => if l.date.year < 1 then none else some (l.dayNumber - eraStart + 1)
  | .year => some l.date.dayOfYear
  | .yearForWeekOfYear =>
    let weekYear := (l.weekOfYear weeks).2
    let start := weeks.dayAt (Date.dayNumber ⟨weekYear, 1, 1⟩) 1 none
    some (l.dayNumber - start + 1)
  | .quarter =>
    some (l.dayNumber - Date.dayNumber ⟨l.date.year, quarterStart l.date.month, 1⟩ + 1)
  | .month => some l.date.day
  | .weekOfMonth | .weekOfYear => some (weeks.placeOf l.weekday + 1)
  | .day | .weekday | .weekdayOrdinal => some 1
  | .hour | .minute | .second | .nanosecond => none

/-- The nanoseconds of a unit of the time of day. -/
def nanosOf : TimeUnit → Int
  | .hour => 3600 * nanosPerSecond
  | .minute => 60 * nanosPerSecond
  | .second => nanosPerSecond
  | _ => 1

/-- Days and nanoseconds from the beginning of a unit. -/
def elapsed? (weeks : WeekNumbering) (large : TimeUnit) : Option (Int × Int) :=
  let nanos := l.secondOfDay * nanosPerSecond + l.nanosecond
  match large with
  | .hour | .minute => some (0, nanos % nanosOf large)
  | .second => some (0, l.nanosecond)
  | _ => (l.dayWithin? weeks large).map fun day => (day - 1, nanos)

/-- The position of a unit of the time of day inside a larger unit, if it is a signed 64-bit
integer. -/
def timeWithin? (weeks : WeekNumbering) (small large : TimeUnit) : Option Int := do
  let (days, nanos) ← l.elapsed? weeks large
  let position := days * (nanosPerDay / nanosOf small) + nanos / nanosOf small + 1
  if position ≤ Binary64.int64Max then some position else none

/-- The position of a unit inside a unit that contains it. -/
def positionWithin? (weeks : WeekNumbering) (small large : TimeUnit) : Option Int :=
  let (era, year) := yearOfEra l.date.year
  match small, large with
  | .hour, _ | .minute, _ | .second, _ | .nanosecond, _ => l.timeWithin? weeks small large
  | .year, _ => some year
  | .quarter, .era =>
    if era = 1 then some ((year - 1) * 4 + quarterOf l.date.month) else none
  | .quarter, .year => some (quarterOf l.date.month)
  | .month, .era => if era = 1 then some ((year - 1) * 12 + l.date.month) else none
  | .month, .year => some l.date.month
  | .month, .quarter => some ((l.date.month - 1) % 3 + 1)
  | .day, _ => l.dayWithin? weeks large
  | .weekday, .weekOfMonth | .weekday, .weekOfYear | .weekdayOrdinal, .weekOfMonth
  | .weekdayOrdinal, .weekOfYear => some (weeks.placeOf l.weekday + 1)
  | .weekday, _ | .weekdayOrdinal, _ =>
    (l.dayWithin? weeks large).map fun day => (day - 1) / 7 + 1
  | .weekOfMonth, .yearForWeekOfYear | .weekOfYear, .yearForWeekOfYear =>
    some (l.weekOfYear weeks).1
  | .weekOfMonth, _ | .weekOfYear, _ =>
    (l.dayWithin? weeks large).map fun day => weeks.weekAt day day l.weekday
  | _, _ => none

end LocalTime

namespace Calendar

variable (cal : Calendar)

/-- The position, from `1`, of the small unit at an instant inside the large one. -/
def ordinality? (small large : TimeUnit) (t : Instant) : Option Int :=
  if large.contains small then (cal.localTime t).positionWithin? cal.weeks small large else none

/-- The position, or why there is none. -/
def ordinality (small large : TimeUnit) (t : Instant) : Except Fault Int :=
  if large.contains small then
    match cal.ordinality? small large t with
    | some position => .ok position
    | none => .error (.noPosition small large t)
  else .error (.notContained small large)

end Calendar

end Almanac
