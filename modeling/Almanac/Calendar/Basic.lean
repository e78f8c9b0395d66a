import Almanac.Fault
import Almanac.WallClock
import Almanac.Week

/-!
# Calendars

* `Calendar`: a Gregorian calendar, fixed by its week numbering and its time zone.
* `Calendar.make`: the calendar of two week settings and a zone, if the settings are valid.
* `Calendar.standard`: weeks from Sunday, a first week of one day, universal time.
-/

namespace Almanac

/-- A Gregorian calendar. -/
structure Calendar where
  weeks : WeekNumbering
  zone : Zone
deriving DecidableEq, Inhabited

namespace Calendar

/-- The identifier of the calendar family. -/
def identifier : String := "gregorian"

/-- Weeks from Sunday, a first week of at least one day, universal time. -/
def standard : Calendar := ⟨.sunday, .utc⟩

/-- The calendar of week settings and a zone. The first weekday is checked first. -/
def make (firstWeekday minimumDays : Int) (zone : Zone) : Except Fault Calendar :=
  if h₁ : 1 ≤ firstWeekday ∧ firstWeekday ≤ 7 then
    if h₂ : 1 ≤ minimumDays ∧ minimumDays ≤ 7 then
      .ok ⟨⟨firstWeekday, minimumDays, h₁, h₂⟩, zone⟩
    else .error (.weekSetting .minimumDays minimumDays)
  else .error (.weekSetting .firstWeekday firstWeekday)

end Calendar

end Almanac
