import Almanac.TimeUnits

/-!
# Sparse date fields

A record of calendar fields, each of which may be absent. Zero is a value and not an absence.

* `DateFields`: one optional integer for each unit, and the flag of a leap month.
* `DateFields.get` and `DateFields.set`: the field of a unit.
* `DateFields.amounts`: the present fields in the order in which they are added.
* `DateFields.restrict`: the record with only the fields of a set.
* `DateFields.describe`: the record as one line for messages.
-/

namespace Almanac

/-- Calendar fields, each present or absent. -/
structure DateFields where
  era : Option Int := none
  year : Option Int := none
  month : Option Int := none
  day : Option Int := none
  hour : Option Int := none
  minute : Option Int := none
  second : Option Int := none
  nanosecond : Option Int := none
  weekday : Option Int := none
  weekdayOrdinal : Option Int := none
  quarter : Option Int := none
  weekOfMonth : Option Int := none
  weekOfYear : Option Int := none
  yearForWeekOfYear : Option Int := none
  isLeapMonth : Option Bool := none
deriving DecidableEq, Inhabited

namespace DateFields

/-- The field of a unit. -/
def get (c : DateFields) : TimeUnit → Option Int
  | .era => c.era
  | .year => c.year
  | .yearForWeekOfYear => c.yearForWeekOfYear
  | .quarter => c.quarter
  | .month => c.month
  | .weekOfMonth => c.weekOfMonth
  | .weekOfYear => c.weekOfYear
  | .day => c.day
  | .weekday => c.weekday
  | .weekdayOrdinal => c.weekdayOrdinal
  | .hour => c.hour
  | .minute => c.minute
  | .second => c.second
  | .nanosecond => c.nanosecond

/-- The record with the field of a unit replaced. -/
def set (c : DateFields) (u : TimeUnit) (value : Option Int) : DateFields :=
  match u with
  | .era => { c with era := value }
  | .year => { c with year := value }
  | .yearForWeekOfYear => { c with yearForWeekOfYear := value }
  | .quarter => { c with quarter := value }
  | .month => { c with month := value }
  | .weekOfMonth => { c with weekOfMonth := value }
  | .weekOfYear => { c with weekOfYear := value }
  | .day => { c with day := value }
  | .weekday => { c with weekday := value }
  | .weekdayOrdinal => { c with weekdayOrdinal := value }
  | .hour => { c with hour := value }
  | .minute => { c with minute := value }
  | .second => { c with second := value }
  | .nanosecond => { c with nanosecond := value }

@[simp]
theorem get_empty (u : TimeUnit) : ({} : DateFields).get u = none := by cases u <;> rfl

theorem get_set (c : DateFields) (u v : TimeUnit) (value : Option Int) :
    (c.set u value).get v = if v = u then value else c.get v := by
  cases u <;> cases v <;> rfl

@[simp]
theorem isLeapMonth_set (c : DateFields) (u : TimeUnit) (value : Option Int) :
    (c.set u value).isLeapMonth = c.isLeapMonth := by
  cases u <;> rfl

/-- A year, a month and a day. -/
def ofDate (year month day : Int) : DateFields :=
  { year := some year, month := some month, day := some day }

/-- A single field. -/
def ofField (u : TimeUnit) (value : Int) : DateFields := ({} : DateFields).set u (some value)

/-- The record with hour, minute and second replaced. -/
def atTime (c : DateFields) (hour minute second : Int) : DateFields :=
  { c with hour := some hour, minute := some minute, second := some second }

/-- The present fields, in the order in which amounts are added. -/
def amounts (c : DateFields) : List (TimeUnit × Int) :=
  TimeUnit.additionOrder.filterMap fun u => (c.get u).map fun value => (u, value)

@[simp]
theorem mem_amounts {c : DateFields} {u : TimeUnit} {value : Int} :
    (u, value) ∈ c.amounts ↔ c.get u = some value := by
  simp [amounts, TimeUnit.mem_additionOrder]

/-- The record that has, for each unit of `units`, the field `value u`, and nothing else. -/
def tabulate (units : TimeUnits) (value : TimeUnit → Option Int) : DateFields :=
  units.toList.foldl (fun c u => c.set u (value u)) {}

@[simp]
theorem get_tabulate (units : TimeUnits) (value : TimeUnit → Option Int) (u : TimeUnit) :
    (tabulate units value).get u = if u ∈ units then value u else none := by
  suffices h : ∀ (list : List TimeUnit) (c : DateFields),
      (list.foldl (fun c v => c.set v (value v)) c).get u = if u ∈ list then value u else c.get u by
    simp [tabulate, h]
  intro list
  induction list with
  | nil => simp
  | cons v list ih =>
    intro c
    rw [List.foldl_cons, ih, get_set]
    by_cases hv : u = v
    · simp [hv]
    · simp [hv]

/-- The record with only the fields of `units`. The leap flag is no unit's field. -/
def restrict (c : DateFields) (units : TimeUnits) : DateFields := tabulate units c.get

theorem get_restrict (c : DateFields) (units : TimeUnits) (u : TimeUnit) :
    (c.restrict units).get u = if u ∈ units then c.get u else none := by simp [restrict]

/-! ## One line for messages -/

/-- An optional value with its presence spelled out. -/
def describeOption {α : Type} (text : α → String) : Option α → String
  | none => "None"
  | some a => "Some(" ++ text a ++ ")"

/-- The record on one line, every field with its value or absence. -/
def describe (c : DateFields) : String :=
  let integer := describeOption (toString : Int → String)
  let entries : List (String × String) :=
    [("era", integer c.era), ("year", integer c.year), ("month", integer c.month),
      ("day", integer c.day), ("hour", integer c.hour), ("minute", integer c.minute),
      ("second", integer c.second), ("nanosecond", integer c.nanosecond),
      ("weekday", integer c.weekday), ("weekday_ordinal", integer c.weekdayOrdinal),
      ("quarter", integer c.quarter), ("week_of_month", integer c.weekOfMonth),
      ("week_of_year", integer c.weekOfYear),
      ("year_for_week_of_year", integer c.yearForWeekOfYear),
      ("is_leap_month", describeOption (toString : Bool → String) c.isLeapMonth)]
  "DateComponents \x7b " ++
    ", ".intercalate (entries.map fun (name, value) => name ++ ": " ++ value) ++ " \x7d"

end DateFields

end Almanac
