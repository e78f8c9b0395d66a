import Almanac.DateFields
import Almanac.Instant

/-!
# Faults

* `Fault`: why a calendar cannot be made or has no answer.
* `Fault.message`: its wording.
-/

namespace Almanac

/-- The two numbers of a week numbering, as settings. -/
inductive WeekSetting where
  | firstWeekday
  | minimumDays
deriving DecidableEq

/-- The name of a setting in messages. -/
def WeekSetting.label : WeekSetting → String
  | firstWeekday => "first_weekday"
  | minimumDays => "minimum_days_in_first_week"

/-- A cause of failure. -/
inductive Fault where
  /-- The week setting is not in `1` to `7`. -/
  | weekSetting (setting : WeekSetting) (value : Int)
  /-- The text is neither a known region nor an offset. -/
  | unknownZone (text : String)
  /-- The offset is a day or more. -/
  | offsetTooLarge (seconds : Int)
  /-- No unit has this name. -/
  | unknownUnit (name : String)
  /-- The fields do not determine a date. -/
  | noDate (fields : DateFields)
  /-- The small unit has no position in the large one at the instant. -/
  | noPosition (small large : TimeUnit) (instant : Instant)
  /-- The large unit does not contain the small one. -/
  | notContained (small large : TimeUnit)
  /-- The settings document is malformed. -/
  | badSettings
deriving DecidableEq

namespace Fault

/-- The wording of a fault. -/
def message : Fault → String
  | weekSetting setting value =>
    "Invalid configuration: " ++ setting.label ++ " must be in 1..=7, got " ++ toString value
  | unknownZone text => "Invalid timezone: " ++ text
  | offsetTooLarge seconds => "Invalid timezone: offset " ++ toString seconds ++ "s"
  | unknownUnit name => "Invalid date components: unknown calendar unit '" ++ name ++ "'"
  | noDate fields => "Invalid date components: cannot anchor a date from " ++ fields.describe
  | noPosition small large instant =>
    "Invalid date components: no position for " ++ small.name ++ " in " ++ large.name ++ " at " ++
      instant.text
  | notContained small large => small.title ++ " is not contained in " ++ large.title
  | badSettings => "Configuration error: malformed settings"

end Fault

/-- The unit of a name in any letter case, or the fault that there is none. -/
def TimeUnit.ofText (text : String) : Except Fault TimeUnit :=
  match ofAnyCase? text with
  | some u => .ok u
  | none => .error (.unknownUnit text)

end Almanac
