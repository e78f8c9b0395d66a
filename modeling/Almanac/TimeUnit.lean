/-!
# Units of time

* `TimeUnit`: the fourteen units of the calendar.
* `TimeUnit.all`: the units in their order; `TimeUnit.additionOrder`: the order in which amounts of
  several units are added.
* `TimeUnit.name` and `TimeUnit.ofName?`: the written name, and the unit of a name.
* `TimeUnit.contains`: whether every instance of one unit lies inside one instance of the other.
-/

namespace Almanac

/-- A unit of time or a numbering of days and weeks. -/
inductive TimeUnit where
  | era
  | year
  | yearForWeekOfYear
  | quarter
  | month
  | weekOfMonth
  | weekOfYear
  | day
  | weekday
  | weekdayOrdinal
  | hour
  | minute
  | second
  | nanosecond
deriving DecidableEq

namespace TimeUnit

/-- Every unit, in order. -/
def all : List TimeUnit :=
  [era, year, yearForWeekOfYear, quarter, month, weekOfMonth, weekOfYear, day, weekday,
    weekdayOrdinal, hour, minute, second, nanosecond]

theorem mem_all (u : TimeUnit) : u ∈ all := by cases u <;> decide

/-- A statement about every unit is decided unit by unit. -/
instance (p : TimeUnit → Prop) [DecidablePred p] : Decidable (∀ u, p u) :=
  decidable_of_iff (∀ u ∈ all, p u) ⟨fun h u => h u u.mem_all, fun h u _ => h u⟩

/-- The order in which amounts of several units are added: days before weeks. -/
def additionOrder : List TimeUnit :=
  [era, year, yearForWeekOfYear, quarter, month, day, weekOfYear, weekOfMonth, weekday,
    weekdayOrdinal, hour, minute, second, nanosecond]

theorem mem_additionOrder (u : TimeUnit) : u ∈ additionOrder := by cases u <;> decide

/-- The position of a unit in the order. -/
def index (u : TimeUnit) : Nat := all.idxOf u

instance : Ord TimeUnit := ⟨fun a b => compare a.index b.index⟩

/-! ## Names -/

/-- The name of a unit. -/
def name : TimeUnit → String
  | era => "era"
  | year => "year"
  | yearForWeekOfYear => "yearForWeekOfYear"
  | quarter => "quarter"
  | month => "month"
  | weekOfMonth => "weekOfMonth"
  | weekOfYear => "weekOfYear"
  | day => "day"
  | weekday => "weekday"
  | weekdayOrdinal => "weekdayOrdinal"
  | hour => "hour"
  | minute => "minute"
  | second => "second"
  | nanosecond => "nanosecond"

/-- The name with a capital first letter. -/
def title (u : TimeUnit) : String := u.name.capitalize

/-- The unit of exactly this name. -/
def ofName? (text : String) : Option TimeUnit := all.find? fun u => u.name = text

/-- Different units have different names. -/
@[simp]
theorem ofName?_name (u : TimeUnit) : ofName? u.name = some u := by cases u <;> decide

/-- The unit of this name, in any case of the ASCII letters. -/
def ofAnyCase? (text : String) : Option TimeUnit :=
  all.find? fun u => u.name.toList.map Char.toLower = text.toList.map Char.toLower

/-! ## Containment -/

/-- Whether the unit measures the time of day. -/
def isClockUnit : TimeUnit → Bool
  | hour | minute | second | nanosecond => true
  | _ => false

/-- Whether every instance of `small` lies inside one instance of `large`, which is another
unit. -/
def contains (large small : TimeUnit) : Bool :=
  decide (large ≠ small) &&
    match large with
    | era => small ≠ yearForWeekOfYear
    | year => small ∉ [era, yearForWeekOfYear]
    | yearForWeekOfYear => small ∈ [weekOfYear, day, weekday] || small.isClockUnit
    | quarter => small ∉ [era, year, yearForWeekOfYear]
    | month => small ∈ [weekOfMonth, day, weekday, weekdayOrdinal] || small.isClockUnit
    | weekOfMonth | weekOfYear => small ∈ [day, weekday] || small.isClockUnit
    | day | weekday => small.isClockUnit
    | weekdayOrdinal => false
    | hour => small ∈ [minute, second, nanosecond]
    | minute => small ∈ [second, nanosecond]
    | second => small = nanosecond
    | nanosecond => false

end TimeUnit

end Almanac
