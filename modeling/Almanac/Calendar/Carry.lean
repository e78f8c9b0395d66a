import Almanac.Calendar.LocalTime

/-!
# Adding amounts that carry

Units of a day and more move the local date and keep the time of day; smaller ones move the
instant by elapsed time.

* `Calendar.moveToDay`: the same time of day on another day.
* `Calendar.moveToMonth?`: the same day and time in another month, the day held to its length.
* `Calendar.carry?`: an amount of one unit added, with overflow into larger units.
-/

namespace Almanac

namespace Calendar

variable (cal : Calendar)

/-- The instant of the same time of day on day `dayNumber`. -/
def moveToDay (l : LocalTime) (dayNumber : Int) : Instant :=
  cal.instantOf dayNumber l.secondOfDay l.nanosecond {}

/-- The instant of the same time in a month counted on from `year`, if its year is allowed. The
day is at most the last of that month. -/
def moveToMonth? (l : LocalTime) (year month : Int) : Option Instant :=
  let (year, month) := foldMonth year month
  if IsYearSized year then
    let day := min l.date.day (monthLength year month)
    (dayNumber? year month day).map (cal.moveToDay l)
  else none

/-- The instant moved by `amount` of a unit. Weekday counts move by weeks; an era moves
nothing. -/
def carry? (unit : TimeUnit) (amount : Int) (t : Instant) : Option Instant :=
  let l := cal.localTime t
  match unit with
  | .era => some t
  | .year => cal.moveToMonth? l (l.date.year + amount) l.date.month
  | .quarter => cal.moveToMonth? l l.date.year (l.date.month + 3 * amount)
  | .month => cal.moveToMonth? l l.date.year (l.date.month + amount)
  | .day | .weekday => some (cal.moveToDay l (l.dayNumber + amount))
  | .weekOfYear | .weekOfMonth | .weekdayOrdinal =>
    some (cal.moveToDay l (l.dayNumber + 7 * amount))
  | .yearForWeekOfYear =>
    let (week, weekYear) := l.weekOfYear cal.weeks
    (dayNumber? (weekYear + amount) 1 1).map
      fun start => cal.moveToDay l (cal.weeks.dayAt start week l.weekday)
  | .hour => some (t + Binary64.ofInt (amount * 3600))
  | .minute => some (t + Binary64.ofInt (amount * 60))
  | .second => some (t + Binary64.ofInt amount)
  | .nanosecond => some (t + Binary64.ofInt amount / Binary64.ofInt nanosPerSecond)

end Calendar

end Almanac
