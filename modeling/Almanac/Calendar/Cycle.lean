import Almanac.Calendar.Carry

/-!
# Adding amounts that cycle

The field of a unit turns round inside its container, and larger fields stay.

* `LocalTime.cycleDay`: the day of the month after a cyclic move of a day-sized unit.
* `LocalTime.cycleWeek`: the week of the year after a cyclic move.
* `Calendar.cycle?`: an amount of one unit added in this way.
-/

namespace Almanac

namespace LocalTime

variable (l : LocalTime)

/-- The day number moved by `amount` weekdays inside its week. -/
def cycleWeekday (weeks : WeekNumbering) (amount : Int) : Int :=
  let position := weeks.placeOf l.weekday
  l.dayNumber + (position + amount) % 7 - position

/-- The day number moved by `amount` days inside its month. -/
def cycleDay (amount : Int) : Int :=
  l.dayNumber + ((l.date.day - 1 + amount) % l.monthLength + 1) - l.date.day

/-- The day number moved by `amount` weeks over the same weekdays of its month. -/
def cycleOrdinal (amount : Int) : Int :=
  let before := (l.date.day - 1) / 7
  let after := (l.monthLength - l.date.day) / 7
  l.dayNumber + 7 * ((before + amount) % (before + after + 1) - before)

/-- The day number moved by `amount` weeks inside its month, which is filled up to whole weeks
for the move and then held to its own days. -/
def cycleWeekOfMonth (weeks : WeekNumbering) (amount : Int) : Int :=
  let position := weeks.placeOf l.weekday
  let firstPosition := (position - l.date.day + 1) % 7
  let start := (if 7 - firstPosition < weeks.minimumDays then 8 else 1) - firstPosition
  let lastPosition := (l.monthLength - l.date.day + position) % 7
  let span := l.monthLength + 7 - lastPosition - start
  let moved := (l.date.day + 7 * amount - start) % span + start
  l.dayNumber + max 1 (min l.monthLength moved) - l.date.day

/-- The day of the year, counted in the year that the week belongs to. -/
def dayOfWeekYear (week weekYear : Int) : Int :=
  if l.date.month = 1 then
    l.date.dayOfYear + (if 52 ≤ week then yearLength weekYear else 0)
  else l.date.dayOfYear - (if week = 1 then yearLength (weekYear - 1) else 0)

/-- How many weeks the year of a week has. -/
def weekCount (weeks : WeekNumbering) (week weekYear : Int) : Int :=
  let length := yearLength weekYear
  let lastPosition :=
    (length - l.dayOfWeekYear week weekYear + l.weekday - weeks.firstWeekday) % 7
  let lastDay := if weeks.minimumDays ≤ 6 - lastPosition then length - 7 else length
  weeks.weekAt lastDay lastDay (lastPosition + 1)

/-- The week of the year moved by `amount`. Up to week 52 there is nothing to turn round. -/
def cycleWeek (weeks : WeekNumbering) (week weekYear amount : Int) : Int :=
  let moved := week + amount
  if 1 ≤ moved ∧ moved ≤ 52 then moved
  else (moved - 1) % l.weekCount weeks week weekYear + 1

end LocalTime

namespace Calendar

variable (cal : Calendar)

/-- The instant moved by `amount` of a unit inside the container of the unit. A year stays in its
era; a week-numbered year has no container and carries. A nanosecond amount of the other sign may
leave the second. -/
def cycle? (unit : TimeUnit) (amount : Int) (t : Instant) : Option Instant :=
  let l := cal.localTime t
  match unit with
  | .era => some t
  | .yearForWeekOfYear => cal.carry? unit amount t
  | .year =>
    let (era, year) := yearOfEra l.date.year
    let moved := if era = 1 then year + amount else year - amount
    cal.moveToMonth? l (astronomicalYear era (max 1 moved)) l.date.month
  | .quarter =>
    let quarter := ((l.date.month - 1) / 3 + amount) % 4
    cal.moveToMonth? l l.date.year (quarter * 3 + (l.date.month - 1) % 3 + 1)
  | .month => cal.moveToMonth? l l.date.year ((l.date.month - 1 + amount) % 12 + 1)
  | .day => some (cal.moveToDay l (l.cycleDay amount))
  | .weekday => some (cal.moveToDay l (l.cycleWeekday cal.weeks amount))
  | .weekdayOrdinal => some (cal.moveToDay l (l.cycleOrdinal amount))
  | .weekOfMonth => some (cal.moveToDay l (l.cycleWeekOfMonth cal.weeks amount))
  | .weekOfYear =>
    let (week, weekYear) := l.weekOfYear cal.weeks
    let moved := l.cycleWeek cal.weeks week weekYear amount
    (dayNumber? weekYear 1 1).map
      fun start => cal.moveToDay l (cal.weeks.dayAt start moved l.weekday)
  | .hour => some (t + Binary64.ofInt (((l.hour + amount) % 24 - l.hour) * 3600))
  | .minute => some (t + Binary64.ofInt (((l.minute + amount) % 60 - l.minute) * 60))
  | .second => some (t + Binary64.ofInt ((l.second + amount) % 60 - l.second))
  | .nanosecond =>
    let moved := (l.nanosecond + amount).tmod nanosPerSecond
    some (t + Binary64.ofInt (moved - l.nanosecond) / Binary64.ofInt nanosPerSecond)

end Calendar

end Almanac
