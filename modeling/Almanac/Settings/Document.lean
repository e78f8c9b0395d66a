import Almanac.Json.Reader
import Almanac.Json.Writer
import Almanac.Settings.Draft
import Almanac.Zone.Text

/-!
# Settings documents

* `SettingsDocument`: the settings of a calendar as a file gives them, all optional.
* `SettingsDocument.ofJson?`, `SettingsDocument.parse` and `SettingsDocument.toJson`.
* `SettingsDocument.resolve`: the calendar that the settings describe.
-/

namespace Almanac

/-- Settings before they are checked. -/
structure SettingsDocument where
  timeZone : Option String := none
  firstWeekday : Option Int := none
  minimumDaysInFirstWeek : Option Int := none
  region : Option String := none
deriving DecidableEq, Inhabited

namespace SettingsDocument

/-- The names of the settings, in the order of the record. -/
def settingNames : List String :=
  ["timeZone", "firstWeekday", "minimumDaysInFirstWeek", "region"]

/-- The settings of a document, which may have no others. -/
def ofJson? (document : Json) : Option SettingsDocument := do
  let fields ← document.record? settingNames true
  some
    { timeZone := ← fields.optional? Json.text? "timeZone"
      firstWeekday := ← fields.optional? Json.int64? "firstWeekday"
      minimumDaysInFirstWeek := ← fields.optional? Json.int64? "minimumDaysInFirstWeek"
      region := ← fields.optional? Json.text? "region" }

/-- The settings that a text writes. -/
def parse (text : String) : Except Fault SettingsDocument :=
  match (Json.parse? text).bind ofJson? with
  | some settings => .ok settings
  | none => .error .badSettings

/-- The settings as an object of all four, absent ones null. -/
def toJson (s : SettingsDocument) : String :=
  Json.objectText
    [("timeZone", Json.nullable Json.quote s.timeZone),
      ("firstWeekday", Json.nullable Json.integerText s.firstWeekday),
      ("minimumDaysInFirstWeek", Json.nullable Json.integerText s.minimumDaysInFirstWeek),
      ("region", Json.nullable Json.quote s.region)]

/-- The calendar of the settings, where `regions` gives the offsets of the names of zones. The zone
is read first; a region supplies absent week settings. -/
def resolve (s : SettingsDocument) (regions : String → Option OffsetTable := Region.find?) :
    Except Fault Calendar := do
  let zone ← match s.timeZone with
    | some text => (Zone.ofText text regions).map some
    | none => .ok none
  let defaults := match s.region with
    | some region => WeekCustom.ofRegion region
    | none => .standard
  CalendarDraft.finish ⟨s.firstWeekday, s.minimumDaysInFirstWeek, zone⟩ defaults

end SettingsDocument

end Almanac
