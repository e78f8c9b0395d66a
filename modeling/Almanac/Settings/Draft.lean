import Almanac.Calendar.Basic
import Almanac.Settings.Regional

/-!
# Calendars in the making

* `CalendarDraft`: the settings of a calendar, each given or not.
* `CalendarDraft.finish`: the calendar, with absent week settings taken from defaults.
-/

namespace Almanac

/-- Settings of a calendar that may still be absent. -/
structure CalendarDraft where
  firstWeekday : Option Int := none
  minimumDays : Option Int := none
  zone : Option Zone := none

/-- The calendar of a draft. Defaults stand in for absent week settings only; the zone is
universal time by default. -/
def CalendarDraft.finish (draft : CalendarDraft) (defaults : WeekCustom) :
    Except Fault Calendar :=
  Calendar.make (draft.firstWeekday.getD defaults.firstWeekday)
    (draft.minimumDays.getD defaults.minimumDays) (draft.zone.getD .utc)

end Almanac
