/-!
# Options of a command line

* `Arity`: how often an option may come and what it takes.
* `OptionSpec`: a long name, perhaps a letter, and the arity.
* `readOptions`: the options at the front of the arguments, up to the name of a command.
* `Given`: the options that were given, with the checks on repetition.

`--name value`, `--name=value`, and for letters `-nvalue`, `-n=value` and `-n value` give a value.
A separate value must not look like an option, unless the option says that it may. Letters of
options without a value can stand together after one dash.
-/

namespace Almanac

namespace Cli

/-- How often an option may be given and what it takes. -/
inductive Arity where
  /-- At most once, without a value. -/
  | flag
  /-- Any number of times, without a value. -/
  | count
  /-- At most once, with a value; `dashes` allows a separate value to begin with a dash. -/
  | single (dashes : Bool)
  /-- Any number of times, each with a value. -/
  | many
deriving DecidableEq

namespace Arity

/-- Whether the option takes a value. -/
def takesValue : Arity → Bool
  | flag | count => false
  | single _ | many => true

/-- Whether a separate value may begin with a dash. -/
def allowsDash : Arity → Bool
  | single dashes => dashes
  | _ => false

/-- Whether the option may be given again. -/
def repeats : Arity → Bool
  | flag | single _ => false
  | count | many => true

end Arity

/-- An option that is understood. -/
structure OptionSpec where
  name : String
  letter : Option Char := none
  arity : Arity

/-- One use of an option; options without a value have an empty one. -/
structure Use where
  spec : OptionSpec
  value : String

/-- The options given, in order. -/
abbrev Given := List Use

namespace Given

/-- The values given for a name. -/
def values (given : Given) (name : String) : List String :=
  (given.filter fun use => use.spec.name = name).map Use.value

/-- Whether a name was given. -/
def has (given : Given) (name : String) : Bool := given.any fun use => use.spec.name = name

/-- Whether only repeatable options come more than once. -/
def WellFormed (given : Given) : Prop :=
  ∀ use ∈ given, use.spec.arity.repeats = true ∨ (given.values use.spec.name).length ≤ 1

instance (given : Given) : Decidable given.WellFormed :=
  inferInstanceAs (Decidable (∀ use ∈ given, _ ∨ _))

end Given

/-! ## One argument -/

/-- What an argument does: some uses are complete, or the last of them waits for its value. -/
inductive Argument where
  | complete (uses : Given)
  | waiting (uses : Given) (spec : OptionSpec)

/-- Reads `name` or `name=value` after two dashes. -/
def readLong? (specs : List OptionSpec) (text : List Char) : Option Argument := do
  let name := String.ofList (text.takeWhile (· ≠ '='))
  let spec ← specs.find? fun spec => spec.name = name
  match text.dropWhile (· ≠ '='), spec.arity.takesValue with
  | _ :: value, true => some (.complete [⟨spec, .ofList value⟩])
  | [], true => some (.waiting [] spec)
  | [], false => some (.complete [⟨spec, ""⟩])
  | _ :: _, false => none

/-- Reads the letters after one dash; the first that takes a value takes the rest. -/
def readLetters? (specs : List OptionSpec) : List Char → Option Argument
  | [] => some (.complete [])
  | letter :: rest => do
    let spec ← specs.find? fun spec => spec.letter = some letter
    if spec.arity.takesValue then
      match rest with
      | [] => some (.waiting [] spec)
      | '=' :: value => some (.complete [⟨spec, .ofList value⟩])
      | value => some (.complete [⟨spec, .ofList value⟩])
    else
      match ← readLetters? specs rest with
      | .complete uses => some (.complete (⟨spec, ""⟩ :: uses))
      | .waiting uses waiting => some (.waiting (⟨spec, ""⟩ :: uses) waiting)

/-- Reads an argument that begins with a dash. A lone dash is no option. -/
def readDashed? (specs : List OptionSpec) : List Char → Option Argument
  | '-' :: '-' :: text => readLong? specs text
  | ['-'] => none
  | '-' :: letters => readLetters? specs letters
  | _ => none

/-- Whether a separate argument can be the value of an option. -/
def fitsAsValue (spec : OptionSpec) (argument : String) : Bool :=
  spec.arity.allowsDash || argument = "-" || !argument.startsWith "-"

/-! ## All arguments -/

/-- The options at the front of `arguments`, and the rest from the first argument on that is no
option, if there is one. Two dashes end the options, and nothing may follow them. -/
def readOptions (specs : List OptionSpec) : List String → Option (Given × List String)
  | [] => some ([], [])
  | argument :: rest =>
    if argument = "--" then (if rest = [] then some ([], []) else none)
    else if argument ≠ "-" ∧ argument.startsWith "-" then
      match readDashed? specs argument.toList, rest with
      | some (.complete uses), rest =>
        (readOptions specs rest).map fun (given, rest) => (uses ++ given, rest)
      | some (.waiting uses spec), value :: rest =>
        if fitsAsValue spec value then
          (readOptions specs rest).map fun (given, rest) => (uses ++ ⟨spec, value⟩ :: given, rest)
        else none
      | _, _ => none
    else some ([], argument :: rest)

end Cli

end Almanac
