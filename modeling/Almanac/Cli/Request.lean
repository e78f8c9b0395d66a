import Almanac.Binary64.Numeral
import Almanac.Cli.Options
import Almanac.TimeUnits
import Almanac.WallClock.Json

/-!
# Requests on the command line

* `Overrides`: settings of the calendar that are given as options.
* `Command`: what is asked for.
* `Request.ofArguments?`: the request of a list of arguments, if they are understood.

The options for settings may stand before and after the name of the command; the later place wins.
-/

namespace Almanac

namespace Cli

/-- Settings of the calendar given on the command line. -/
structure Overrides where
  zone : Option String
  firstWeekday : Option Int
  minimumDays : Option Int
  region : Option String
  config : Option String

/-- What is asked for. -/
inductive Command where
  /-- The fields of an instant. -/
  | components (instant : Binary64) (units : TimeUnits)
  /-- The instant of fields from a file or from standard input. -/
  | date (input : Option String) (resolution : Resolution)
  /-- The instant moved by one amount, or by the fields of a document. -/
  | add (instant : Binary64) (unit : Option TimeUnit) (amount : Option Int)
      (components : Option String) (wrap : Bool)
  /-- The position of a unit inside another. -/
  | ordinality (instant : Binary64) (small large : TimeUnit)
  /-- The start of a unit. -/
  | start (instant : Binary64) (unit : TimeUnit)
  /-- The values of a unit inside another. -/
  | range (instant : Binary64) (small large : TimeUnit)
  /-- The values that a unit always has. -/
  | minimum (unit : TimeUnit)
  /-- The values that a unit can have. -/
  | maximum (unit : TimeUnit)

/-- A command and the settings to run it with. -/
structure Request where
  overrides : Overrides
  command : Command

/-! ## Options -/

/-- The options that every command understands. -/
def sharedOptions : List OptionSpec :=
  [{ name := "zone", arity := .single false },
    { name := "first-weekday", arity := .single false },
    { name := "min-days", arity := .single false },
    { name := "region", arity := .single false },
    { name := "config", arity := .single false },
    { name := "verbose", letter := 'v', arity := .count }]

/-- The options of each command. -/
def commandOptions : String → Option (List OptionSpec)
  | "components" =>
    some [{ name := "at", arity := .single true }, { name := "units", arity := .many }]
  | "date" =>
    some [{ name := "input", letter := 'i', arity := .single false },
      { name := "repeated", arity := .single false },
      { name := "skipped", arity := .single false }]
  | "add" =>
    some [{ name := "at", arity := .single true },
      { name := "unit", arity := .single false },
      { name := "amount", arity := .single true },
      { name := "components", arity := .single false },
      { name := "wrap", arity := .flag }]
  | "ordinality" =>
    some [{ name := "at", arity := .single true },
      { name := "small", arity := .single false },
      { name := "large", arity := .single false }]
  | "start" =>
    some [{ name := "at", arity := .single true }, { name := "unit", arity := .single false }]
  | "range" =>
    some [{ name := "at", arity := .single true },
      { name := "small", arity := .single false },
      { name := "large", arity := .single false },
      { name := "minimum", arity := .flag },
      { name := "maximum", arity := .flag }]
  | _ => none

/-! ## Values -/

/-- A signed 64-bit integer. -/
def integer? (text : String) : Option Int :=
  Numeral.integer? Binary64.int64Min Binary64.int64Max text.toList

/-- The value of an option that may be absent. Every value given must be readable, and the last
one counts. -/
def Given.optional? {α : Type} (given : Given) (decode : String → Option α) (name : String) :
    Option (Option α) :=
  ((given.values name).mapM decode).map List.getLast?

/-- The value of an option that must be given. -/
def Given.required? {α : Type} (given : Given) (decode : String → Option α) (name : String) :
    Option α :=
  (given.optional? decode name).bind id

/-- The value of an option with a default. -/
def Given.withDefault? {α : Type} (given : Given) (decode : String → Option α) (name : String)
    (default : α) : Option α :=
  (given.optional? decode name).map (·.getD default)

/-- Texts between commas. -/
def splitCommas (text : String) : List String :=
  (text.toList.splitOnP (· = ',')).map String.ofList

/-- The units of an option that lists them; every unit if the option is absent. -/
def Given.units? (given : Given) (name : String) : Option TimeUnits := do
  let units ← ((given.values name).flatMap splitCommas).mapM TimeUnit.ofAnyCase?
  some (if units = [] then .full else .ofList units)

/-! ## Requests -/

/-- The overrides among the options given. -/
def Overrides.ofGiven? (given : Given) : Option Overrides := do
  some
    { zone := ← given.optional? some "zone"
      firstWeekday := ← given.optional? integer? "first-weekday"
      minimumDays := ← given.optional? integer? "min-days"
      region := ← given.optional? some "region"
      config := ← given.optional? some "config" }

/-- The instant option. -/
def Given.at? (given : Given) : Option Binary64 := given.required? Binary64.ofNumeral? "at"

/-- The range command. Without one of the static ranges it needs an instant and a container. -/
def rangeCommand? (given : Given) : Option Command := do
  let small ← given.required? TimeUnit.ofAnyCase? "small"
  let large ← given.optional? TimeUnit.ofAnyCase? "large"
  let instant ← given.optional? Binary64.ofNumeral? "at"
  match given.has "minimum", given.has "maximum", instant, large with
  | true, true, _, _ => none
  | true, false, _, _ => some (.minimum small)
  | false, true, _, _ => some (.maximum small)
  | false, false, some instant, some large => some (.range instant small large)
  | false, false, _, _ => none

/-- The add command. A unit needs an amount and excludes a document. -/
def addCommand? (given : Given) : Option Command := do
  let instant ← given.at?
  let unit ← given.optional? TimeUnit.ofAnyCase? "unit"
  let amount ← given.optional? integer? "amount"
  let components ← given.optional? some "components"
  if unit.isSome ∧ (amount = none ∨ components.isSome) then none
  else some (.add instant unit amount components (given.has "wrap"))

/-- The command of a name and its options. -/
def Command.ofGiven? (name : String) (given : Given) : Option Command :=
  match name with
  | "components" => do some (.components (← given.at?) (← given.units? "units"))
  | "date" => do
    let input ← given.optional? some "input"
    let repeated ← given.withDefault? Side.ofName? "repeated" .former
    let skipped ← given.withDefault? Side.ofName? "skipped" .former
    some (.date input ⟨repeated, skipped⟩)
  | "add" => addCommand? given
  | "ordinality" => do
    some (.ordinality (← given.at?) (← given.required? TimeUnit.ofAnyCase? "small")
      (← given.required? TimeUnit.ofAnyCase? "large"))
  | "start" => do
    some (.start (← given.at?) (← given.required? TimeUnit.ofAnyCase? "unit"))
  | "range" => rangeCommand? given
  | _ => none

/-- The request of the arguments: options, the name of a command, and its options. -/
def Request.ofArguments? (arguments : List String) : Option Request := do
  let (before, rest) ← readOptions sharedOptions arguments
  match rest with
  | [] => none
  | name :: rest =>
    let specs ← commandOptions name
    let (after, rest) ← readOptions (specs ++ sharedOptions) rest
    if rest ≠ [] ∨ ¬ before.WellFormed ∨ ¬ after.WellFormed then none
    else some ⟨← Overrides.ofGiven? (before ++ after), ← Command.ofGiven? name after⟩

end Cli

end Almanac
