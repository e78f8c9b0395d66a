import Almanac.Calendar.LocalTime

/-!
# Starts of units

* `LocalTime.firstDay?`: the first day of the unit that holds a local time.
* `Calendar.startOf?`: the first instant of the unit that holds an instant.
-/

namespace Almanac

/-- The number of the first day of a unit of a day or more. Era `0` has no first day, and units of
the time of day have none of their own. -/
def LocalTime.firstDay? (l : LocalTime) (weeks : WeekNumbering) : TimeUnit → Option Int
  | .era => if l.date.year < 1 then none else some eraStart
  | .year => some (Date.dayNumber ⟨l.date.year, 1, 1⟩)
  | .yearForWeekOfYear =>
    some (weeks.dayAt (Date.dayNumber ⟨(l.weekOfYear weeks).2, 1, 1⟩) 1 none)
  | .quarter => some (Date.dayNumber ⟨l.date.year, quarterStart l.date.month, 1⟩)
  | .month => some (l.dayNumber - l.date.day + 1)
  | .weekOfMonth | .weekOfYear => some (weeks.startOfWeek l.dayNumber)
  | .day | .weekday | .weekdayOrdinal => some l.dayNumber
  | .hour | .minute | .second | .nanosecond => none

namespace Calendar

variable (cal : Calendar)

/-- The instant without the part of the time of day that is below `seconds` seconds, as elapsed
time. Seconds are of any size, as in `Calendar.localTime`. -/
def truncate (t : Instant) (seconds : Int) : Instant :=
  .ofSeconds (t.secondsAndNanos.1 - (cal.localTime t).secondOfDay % seconds)

/-- The first instant of the unit that holds `t`: local midnight of its first day, or the instant
without its smaller parts. -/
def startOf? (unit : TimeUnit) (t : Instant) : Option Instant :=
  match unit with
  | .hour => some (cal.truncate t 3600)
  | .minute => some (cal.truncate t 60)
  | .second => some (cal.truncate t 1)
  | .nanosecond => some t
  | _ => ((cal.localTime t).firstDay? cal.weeks unit).map (cal.instantOf · 0 0 {})

end Calendar

end Almanac
