import Almanac.Calendar.Basic

/-!
# Local time

* `LocalTime`: an instant as a wall clock and a wall calendar show it.
* `Calendar.localTime`: the local time of an instant.
* `LocalTime.value`: the number that a unit has at a local time.
* `Calendar.instantOf`: the instant of a local day and time of day.
* `dayNumber?`: the number of a day in a month that may lie outside its year.

Seconds, readings and day numbers are integers of any size. They stand for 64-bit integers, which
hold them unless the instant is near the ends of the 64-bit seconds.
-/

namespace Almanac

/-- A local day with its date, and the time of day. -/
structure LocalTime where
  dayNumber : Int
  date : Date
  secondOfDay : Int
  nanosecond : Int
deriving DecidableEq

namespace LocalTime

variable (l : LocalTime)

/-- The hour of the day, from `0`. -/
def hour : Int := l.secondOfDay / 3600

/-- The minute of the hour, from `0`. -/
def minute : Int := l.secondOfDay % 3600 / 60

/-- The second of the minute, from `0`. -/
def second : Int := l.secondOfDay % 60

/-- The weekday, `1` for Sunday. -/
def weekday : Int := weekdayOf l.dayNumber

/-- The length of the month. -/
def monthLength : Int := Almanac.monthLength l.date.year l.date.month

/-- The week of the year and the year that the week is counted in. -/
def weekOfYear (weeks : WeekNumbering) : Int × Int :=
  weeks.weekOfYear l.date.year l.date.dayOfYear l.weekday

/-- The number that a unit has. -/
def value (weeks : WeekNumbering) : TimeUnit → Int
  | .era => (yearOfEra l.date.year).1
  | .year => (yearOfEra l.date.year).2
  | .yearForWeekOfYear => (l.weekOfYear weeks).2
  | .quarter => quarterOf l.date.month
  | .month => l.date.month
  | .weekOfMonth => weeks.weekAt l.date.day l.date.day l.weekday
  | .weekOfYear => (l.weekOfYear weeks).1
  | .day => l.date.day
  | .weekday => l.weekday
  | .weekdayOrdinal => (l.date.day - 1) / 7 + 1
  | .hour => l.hour
  | .minute => l.minute
  | .second => l.second
  | .nanosecond => l.nanosecond

end LocalTime

/-! ## Between instants and local time -/

namespace Calendar

variable (cal : Calendar)

/-- The local time of an instant. -/
def localTime (t : Instant) : LocalTime :=
  let (second, nanosecond) := t.secondsAndNanos
  let reading := cal.zone.source.toLocal second
  let dayNumber := reading / secondsPerDay
  ⟨dayNumber, .ofDayNumber dayNumber, reading % secondsPerDay, nanosecond⟩

/-- The instant of a local day and a time of day, which may run over its day and its second. -/
def instantOf (dayNumber secondOfDay nanosecond : Int) (resolution : Resolution) : Instant :=
  let reading := dayNumber * secondsPerDay + secondOfDay + nanosecond / nanosPerSecond
  Instant.ofSeconds (cal.zone.source.toUtc reading resolution) +
    (Binary64.ofInt (nanosecond % nanosPerSecond) / Binary64.ofInt nanosPerSecond)

end Calendar

/-! ## Limits -/

/-- The largest magnitude of a field. -/
def largestField : Int := 1000000000000

/-- The largest magnitude of a year. -/
def largestYear : Int := 100000000

/-- Whether a value may be a field. -/
def IsFieldSized (value : Int) : Prop := -largestField ≤ value ∧ value ≤ largestField

instance (value : Int) : Decidable (IsFieldSized value) :=
  inferInstanceAs (Decidable (_ ∧ _))

/-- Whether dates may have this year. -/
def IsYearSized (year : Int) : Prop := -largestYear ≤ year ∧ year ≤ largestYear

instance (year : Int) : Decidable (IsYearSized year) :=
  inferInstanceAs (Decidable (_ ∧ _))

/-- The number of a day of a month counted on from `year`, if the year it falls in is allowed. -/
def dayNumber? (year month day : Int) : Option Int :=
  let (year, month) := foldMonth year month
  if IsYearSized year then some (Date.dayNumber ⟨year, month, day⟩) else none

end Almanac
