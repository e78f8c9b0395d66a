import Almanac.Calendar.LocalTime

/-!
# Between instants and date fields

* `Calendar.fieldsAt`: the fields of an instant.
* `DaySelector`: what pins the day; `DateFields.daySelector?` chooses it in a fixed order.
* `Calendar.date?`: the instant of date fields.
* `Calendar.date`: the same with the cause of a failure.
-/

namespace Almanac

/-- The fields of an instant that are in `units`. A month comes with the flag that it is no leap
month. -/
def Calendar.fieldsAt (cal : Calendar) (units : TimeUnits) (t : Instant) : DateFields :=
  let l := cal.localTime t
  let fields := DateFields.tabulate units fun u => some (l.value cal.weeks u)
  if TimeUnit.month ∈ units then { fields with isLeapMonth := some false } else fields

/-! ## What pins the day -/

/-- What pins the day of a date. -/
inductive DaySelector where
  /-- A day of the month. -/
  | monthDay (day : Int)
  /-- A week of the year. -/
  | yearWeek (week : Int)
  /-- A week of the month. -/
  | monthWeek (week : Int)
  /-- The `n`-th of a weekday in the month. -/
  | nthWeekday (n weekday : Int)
deriving DecidableEq

namespace DateFields

/-- What pins the day of fields without a day or a usable weekday: the week of a week-numbered
year, if one is given and not overruled by a plain year; otherwise the first of the month. -/
def defaultSelector (c : DateFields) : DaySelector :=
  if c.yearForWeekOfYear.isSome ∧ (c.weekOfYear.isSome ∨ c.year = none) then
    .yearWeek (c.weekOfYear.getD 1)
  else .monthDay 1

/-- What pins the day: the day; a weekday in a week of the year, in a week of the month, or counted
in the month; then the default. A counted weekday must be known. -/
def daySelector? (c : DateFields) : Option DaySelector :=
  match c.day, c.weekday with
  | some day, _ => some (.monthDay day)
  | none, some weekday =>
    match c.weekOfYear, c.weekOfMonth, c.weekdayOrdinal with
    | some week, _, _ => some (.yearWeek week)
    | none, some week, _ => some (.monthWeek week)
    | none, none, some n => some (.nthWeekday n weekday)
    | none, none, none => some c.defaultSelector
  | none, none => if c.weekdayOrdinal.isSome then none else some c.defaultSelector

/-- Whether every present field is within the limit. -/
def WithinLimits (c : DateFields) : Prop :=
  ∀ u ∈ TimeUnit.all, ∀ value ∈ c.get u, IsFieldSized value

instance (c : DateFields) : Decidable c.WithinLimits :=
  inferInstanceAs (Decidable (∀ u ∈ TimeUnit.all, ∀ value ∈ c.get u, IsFieldSized value))

/-- The astronomical year of the fields; era and year are `1` by default. -/
def fullYear (c : DateFields) : Int := astronomicalYear (c.era.getD 1) (c.year.getD 1)

/-- The number of the day that is pinned. -/
def dayNumberAt? (c : DateFields) (weeks : WeekNumbering) : DaySelector → Option Int
  | .monthDay day => dayNumber? c.fullYear (c.month.getD 1) day
  | .yearWeek week =>
    (dayNumber? (c.yearForWeekOfYear.getD c.fullYear) 1 1).map
      fun start => weeks.dayAt start week c.weekday
  | .monthWeek week =>
    (dayNumber? c.fullYear (c.month.getD 1) 1).map
      fun start => weeks.dayAt start week c.weekday
  | .nthWeekday n weekday =>
    let (year, month) := foldMonth c.fullYear (c.month.getD 1)
    (dayNumber? year month 1).map
      fun start => weeks.nthWeekday start (monthLength year month) n weekday

/-- The second of the day, from fields that may be out of their range. -/
def secondOfDay (c : DateFields) : Int :=
  c.hour.getD 0 * 3600 + c.minute.getD 0 * 60 + c.second.getD 0

end DateFields

/-! ## Dates -/

namespace Calendar

variable (cal : Calendar)

/-- The instant of date fields, if they pin a day within the limits. Fields out of their range
carry into larger ones. -/
def date? (c : DateFields) (resolution : Resolution) : Option Instant :=
  if c.isLeapMonth = some true ∨ ¬ c.WithinLimits then none
  else do
    let selector ← c.daySelector?
    let dayNumber ← c.dayNumberAt? cal.weeks selector
    some (cal.instantOf dayNumber c.secondOfDay (c.nanosecond.getD 0) resolution)

/-- The instant of date fields, former offsets first, or why there is none. -/
def date (c : DateFields) : Except Fault Instant :=
  match cal.date? c {} with
  | some t => .ok t
  | none => .error (.noDate c)

end Calendar

end Almanac
