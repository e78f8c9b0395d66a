import Almanac.DateFields
import Almanac.Json.Reader
import Almanac.Json.Writer

/-!
# Date fields and units as JSON

* `TimeUnit.ofJson?`: a unit by its name.
* `DateFields.ofJson?`: fields from an object, or from an array in the order of the record.
* `DateFields.toJson`: the present fields as an object.
-/

namespace Almanac

/-- The unit of a document. -/
def TimeUnit.ofJson? (document : Json) : Option TimeUnit := document.choice?.bind ofName?

namespace DateFields

/-- The names of the fields, in the order of the record. -/
def fieldNames : List String :=
  ["era", "year", "month", "day", "hour", "minute", "second", "nanosecond", "weekday",
    "weekdayOrdinal", "quarter", "weekOfMonth", "weekOfYear", "yearForWeekOfYear", "isLeapMonth"]

/-- The fields of a document. Names that are no field are passed over, null is absence. -/
def ofJson? (document : Json) : Option DateFields := do
  let fields ← document.record? fieldNames false
  let integer := fields.optional? Json.int64?
  some
    { era := ← integer "era"
      year := ← integer "year"
      month := ← integer "month"
      day := ← integer "day"
      hour := ← integer "hour"
      minute := ← integer "minute"
      second := ← integer "second"
      nanosecond := ← integer "nanosecond"
      weekday := ← integer "weekday"
      weekdayOrdinal := ← integer "weekdayOrdinal"
      quarter := ← integer "quarter"
      weekOfMonth := ← integer "weekOfMonth"
      weekOfYear := ← integer "weekOfYear"
      yearForWeekOfYear := ← integer "yearForWeekOfYear"
      isLeapMonth := ← fields.optional? Json.bool? "isLeapMonth" }

/-- The present fields with their names, written. -/
def entries (c : DateFields) : List (String × String) :=
  let integer (name : String) (value : Option Int) : List (String × String) :=
    (value.map fun n => (name, Json.integerText n)).toList
  integer "era" c.era ++ integer "year" c.year ++ integer "month" c.month ++
    integer "day" c.day ++ integer "hour" c.hour ++ integer "minute" c.minute ++
    integer "second" c.second ++ integer "nanosecond" c.nanosecond ++
    integer "weekday" c.weekday ++ integer "weekdayOrdinal" c.weekdayOrdinal ++
    integer "quarter" c.quarter ++ integer "weekOfMonth" c.weekOfMonth ++
    integer "weekOfYear" c.weekOfYear ++ integer "yearForWeekOfYear" c.yearForWeekOfYear ++
    (c.isLeapMonth.map fun b => ("isLeapMonth", Json.boolText b)).toList

/-- The record as an object of its present fields. -/
def toJson (c : DateFields) : String := Json.objectText c.entries

/-- The fields that a text writes. -/
def parse? (text : String) : Option DateFields := (Json.parse? text).bind ofJson?

end DateFields

end Almanac
