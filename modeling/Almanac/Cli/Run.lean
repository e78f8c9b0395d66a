import Almanac.Calendar.Add
import Almanac.Calendar.Extent
import Almanac.Calendar.Fields
import Almanac.Calendar.Position
import Almanac.Calendar.Start
import Almanac.Cli.Request
import Almanac.DateFields.Json
import Almanac.Settings.Document

/-!
# Running requests

* `Report`: what a command prints; `Report.text` is its JSON text.
* `Failure`: why a command has nothing to print, with its wording.
* `Request.run`: the report of a request.
* `Outcome` and `run`: the same for a list of arguments.
-/

namespace Almanac

namespace Cli

/-- What a command prints. -/
inductive Report where
  | fields (fields : DateFields)
  | instant (instant : Instant)
  | ordinality (position : Int)
  | range (range : ValueRange)

/-- The JSON text of a report. An instant that is no finite number is null. -/
def Report.text : Report → String
  | fields c => c.toJson
  | instant t => Json.objectText [("at", Json.nullable id t.seconds.mixed?)]
  | ordinality n => Json.objectText [("ordinality", Json.integerText n)]
  | range r =>
    Json.objectText [("start", Json.integerText r.start), ("end", Json.integerText r.stop)]

/-- Why there is nothing to print. -/
inductive Failure where
  | settingsUnreadable (path : String)
  | settingsInvalid (path : String)
  | calendarInvalid (fault : Fault)
  | inputUnreadable (path : String)
  | inputInvalid
  | noDate
  | amountsInvalid
  | amountTooLarge (amount : Int) (unit : TimeUnit)
  | amountsTooLarge
  | nothingToAdd
  | noPosition (fault : Fault)
  | noStart (unit : TimeUnit) (instant : Instant)
  | noRange (small large : TimeUnit)

namespace Failure

/-- The wording of a failure. -/
def message : Failure → String
  | settingsUnreadable path => "Failed to read config file: " ++ path
  | settingsInvalid path => "Invalid config file: " ++ path
  | calendarInvalid _ => "Invalid calendar configuration"
  | inputUnreadable path => "Failed to read file: " ++ path
  | inputInvalid => "Failed to parse date components JSON"
  | noDate => "Components do not identify a representable date"
  | amountsInvalid => "Failed to parse --components JSON"
  | amountTooLarge amount unit =>
    "Adding " ++ Json.integerText amount ++ " " ++ unit.name ++ " leaves the representable range"
  | amountsTooLarge => "Composite add leaves the representable range"
  | nothingToAdd => "Pass either --unit with --amount, or --components"
  | noPosition fault => fault.message
  | noStart unit instant => "No start of " ++ unit.name ++ " at " ++ instant.text
  | noRange small large => small.name ++ " has no range within " ++ large.name

/-- The fault behind a failure that names one. -/
def cause? : Failure → Option Fault
  | calendarInvalid fault => some fault
  | _ => none

end Failure

/-- What a request can read: files by name, and standard input. -/
structure Inputs where
  file : String → Option String
  standardInput : String

/-! ## Running -/

/-- A value, or the failure that stands for its absence. -/
def orFail {α : Type} (failure : Failure) : Option α → Except Failure α
  | some a => .ok a
  | none => .error failure

/-- The calendar of a request: the settings file, if there is one, with overrides on top. -/
def Overrides.calendar (o : Overrides) (inputs : Inputs)
    (regions : String → Option OffsetTable) : Except Failure Calendar := do
  let file : SettingsDocument ← match o.config with
    | none => .ok {}
    | some path => do
      let text ← orFail (.settingsUnreadable path) (inputs.file path)
      (SettingsDocument.parse text).mapError fun _ => .settingsInvalid path
  let settings : SettingsDocument :=
    { timeZone := o.zone.or file.timeZone
      firstWeekday := o.firstWeekday.or file.firstWeekday
      minimumDaysInFirstWeek := o.minimumDays.or file.minimumDaysInFirstWeek
      region := o.region.or file.region }
  (settings.resolve regions).mapError .calendarInvalid

/-- The report of a command under a calendar. -/
def Command.run (command : Command) (cal : Calendar) (inputs : Inputs) :
    Except Failure Report :=
  match command with
  | components instant units => .ok (.fields (cal.fieldsAt units ⟨instant⟩))
  | date input resolution => do
    let text ← match input with
      | some path => orFail (.inputUnreadable path) (inputs.file path)
      | none => .ok inputs.standardInput
    let fields ← orFail .inputInvalid (DateFields.parse? text)
    return .instant (← orFail .noDate (cal.date? fields resolution))
  | add instant (some unit) (some amount) _ wrap => do
    return .instant
      (← orFail (.amountTooLarge amount unit) (cal.add? unit amount ⟨instant⟩ wrap))
  | add instant _ _ (some text) wrap => do
    let amounts ← orFail .amountsInvalid (DateFields.parse? text)
    return .instant (← orFail .amountsTooLarge (cal.addFields? amounts ⟨instant⟩ wrap))
  | add _ _ _ none _ => .error .nothingToAdd
  | ordinality instant small large =>
    ((cal.ordinality small large ⟨instant⟩).map .ordinality).mapError .noPosition
  | start instant unit => do
    return .instant (← orFail (.noStart unit ⟨instant⟩) (cal.startOf? unit ⟨instant⟩))
  | range instant small large => do
    return .range (← orFail (.noRange small large) (cal.range? small large ⟨instant⟩))
  | minimum unit => .ok (.range (commonRange unit))
  | maximum unit => .ok (.range (widestRange unit))

/-- The report of a request. The calendar is made before anything else is read. -/
def Request.run (request : Request) (inputs : Inputs)
    (regions : String → Option OffsetTable) : Except Failure Report := do
  let cal ← request.overrides.calendar inputs regions
  request.command.run cal inputs

/-- The files that a request may read. -/
def Request.files (request : Request) : List String :=
  request.overrides.config.toList ++
    match request.command with
    | .date input _ => input.toList
    | _ => []

/-- How a run ends. -/
inductive Outcome where
  /-- The arguments are not understood. -/
  | misuse
  | failed (failure : Failure)
  | printed (report : Report)

/-- The outcome of a list of arguments, where `regions` gives the offsets of the names of zones. -/
def run (arguments : List String) (inputs : Inputs)
    (regions : String → Option OffsetTable := Region.find?) : Outcome :=
  match Request.ofArguments? arguments with
  | none => .misuse
  | some request =>
    match request.run inputs regions with
    | .error failure => .failed failure
    | .ok report => .printed report

/-- The exit code of an outcome. -/
def Outcome.exitCode : Outcome → UInt32
  | misuse => 2
  | failed _ => 1
  | printed _ => 0

end Cli

end Almanac
