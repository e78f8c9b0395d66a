import Almanac.Json.Reader
import Almanac.Json.Writer
import Almanac.WallClock

/-!
# Resolutions as JSON

* `Side.ofJson?` and `Side.toJson`: a side of a change by its name.
* `Resolution.ofJson?` and `Resolution.toJson`: a record of two sides.
-/

namespace Almanac

namespace Side

/-- The name of a side. -/
def name : Side → String
  | former => "former"
  | latter => "latter"

/-- The side of a name. -/
def ofName? (text : String) : Option Side :=
  [former, latter].find? fun side => side.name = text

@[simp]
theorem ofName?_name (side : Side) : ofName? side.name = some side := by cases side <;> decide

/-- The side of a document. -/
def ofJson? (document : Json) : Option Side := document.choice?.bind ofName?

/-- A side as a string. -/
def toJson (side : Side) : String := Json.quote side.name

end Side

namespace Resolution

/-- The resolution of a document, which must give both sides. -/
def ofJson? (document : Json) : Option Resolution := do
  let fields ← document.record? ["repeated", "skipped"] false
  some
    { repeated := ← fields.required? Side.ofJson? "repeated"
      skipped := ← fields.required? Side.ofJson? "skipped" }

/-- A resolution as an object. -/
def toJson (r : Resolution) : String :=
  Json.objectText [("repeated", r.repeated.toJson), ("skipped", r.skipped.toJson)]

end Resolution

end Almanac
