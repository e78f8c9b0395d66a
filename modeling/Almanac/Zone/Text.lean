import Almanac.Fault
import Almanac.Numeral
import Almanac.Text.Blank
import Almanac.Zone
import Almanac.Zone.Region

/-!
# Zones from text

A zone is written as the name of a region or as an offset: a sign and hours, with minutes after a
colon or as the last two of four characters. `GMT` or `UTC` may stand before the sign.

* `Zone.offset?`: the seconds of an offset.
* `Zone.ofText`: the zone of a text; blanks at the ends are ignored and a region's name wins.
* `Zone.ofOffset`: the zone of a number of seconds.
-/

namespace Almanac

namespace Zone

/-- Hours and minutes, still as text. -/
def splitHours (text : List Char) : List Char × List Char :=
  match text.dropWhile (· ≠ ':') with
  | _ :: minutes => (text.takeWhile (· ≠ ':'), minutes)
  | [] => if text.length = 4 then (text.take 2, text.drop 2) else (text, ['0'])

/-- A number of hours or minutes, which may carry a sign of its own. -/
def count? (text : List Char) : Option Int := Numeral.integer? (-2147483648) 2147483647 text

/-- The seconds of hours and minutes, at most 23 and 59. -/
def duration? (text : List Char) : Option Int := do
  let (hours, minutes) := splitHours text
  let hours ← count? hours
  let minutes ← count? minutes
  if 23 < hours ∨ 59 < minutes then none else some (hours * 3600 + minutes * 60)

/-- The seconds of a signed offset. -/
def offset? : List Char → Option Int
  | '+' :: text => duration? text
  | '-' :: text => (duration? text).map (-·)
  | _ => none

/-- The text without one leading `GMT` or else `UTC`. -/
def dropScale : List Char → List Char
  | 'G' :: 'M' :: 'T' :: rest => rest
  | 'U' :: 'T' :: 'C' :: rest => rest
  | text => text

/-- The zone that `text` names, where `regions` gives the offsets of the names that are known. -/
def ofText (text : String) (regions : String → Option OffsetTable := Region.find?) :
    Except Fault Zone :=
  let trimmed := trimBlanks text
  match regions trimmed with
  | some table => .ok (region trimmed table)
  | none =>
    match (offset? (dropScale trimmed.toList)).bind FixedOffset.ofSeconds? with
    | some offset => .ok (fixed offset)
    | none => .error (.unknownZone text)

/-- The zone `seconds` east of UTC. -/
def ofOffset (seconds : Int) : Except Fault Zone :=
  match FixedOffset.ofSeconds? seconds with
  | some offset => .ok (fixed offset)
  | none => .error (.offsetTooLarge seconds)

end Zone

end Almanac
