import Almanac.Zone.Offsets

/-!
# The next change of an offset

* `nextChange?`: the first second after a given one at which a total offset differs, looked for in
  steps of a day over fifty years and then narrowed down to the second.
* `OffsetTable.source`: the source of a table, with changes found in this way.
-/

namespace Almanac

/-- The seconds of a day. -/
def secondsPerDay : Int := 86400

/-- How many days are looked at. -/
def changeHorizon : Nat := 366 * 50

/-- Halves the window from `low`, where `total` is `base`, to `high`, where it is not, until it is
one second wide. -/
def narrow (total : Int → Int) (base low high : Int) : Int :=
  if 1 < high - low then
    let middle := low + (high - low) / 2
    if total middle = base then narrow total base middle high else narrow total base low middle
  else high
termination_by (high - low).toNat

/-- Looks for a value other than `base` at the ends of the next `days` days. -/
def searchDays (total : Int → Int) (base : Int) : Nat → Int → Option Int
  | 0, _ => none
  | days + 1, low =>
    let high := low + secondsPerDay
    if total high = base then searchDays total base days high
    else some (narrow total base low high)

/-- The second of the next change of `total` after `start`. A change that is undone within a day
may be missed. -/
def nextChange? (total : Int → Int) (start : Int) : Option Int :=
  searchDays total (total start) changeHorizon start

namespace OffsetTable

/-- The total offset at a second. -/
def totalAt (table : OffsetTable) (second : Int) : Int := (table.offsetsAt second).total

/-- The source of a table. -/
def source (table : OffsetTable) : OffsetSource where
  offsetsAt t := table.offsetsAt t.wholeSeconds
  nextChange t := (nextChange? table.totalAt t.wholeSeconds).map Instant.ofSeconds

end OffsetTable

end Almanac
