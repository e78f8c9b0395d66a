import Almanac.Zone

/-!
# Wall-clock readings

A reading counts the seconds that a wall clock shows, from its own 1970-01-01 00:00. A clock that
is set back shows some readings twice, one that is set forward skips some.

* `Reading`: how often a reading occurs around a change.
* `Resolution`: which offset to use for repeated and for skipped readings.
* `OffsetSource.resolve`: the second of a reading and its kind.
* `OffsetSource.toLocal`: the reading at a second.
-/

namespace Almanac

/-- The offset on one side of a change. -/
inductive Side where
  | former
  | latter
deriving DecidableEq, Inhabited

/-- The offsets to use for a reading that occurs twice and for one that does not occur. -/
structure Resolution where
  repeated : Side := .former
  skipped : Side := .former
deriving DecidableEq, Inhabited

/-- How a reading relates to the changes of its zone. -/
inductive Reading where
  /-- It occurs once. -/
  | unique
  /-- It occurs twice: the clock was set back over it. -/
  | fold
  /-- It does not occur: the clock was set forward over it. -/
  | gap
deriving DecidableEq

namespace OffsetSource

variable (source : OffsetSource)

/-- The second at which a clock shows `reading`, and how often it does. The offsets a day before
and a day after decide; where they differ, the change between them does. -/
def resolve (reading : Int) (resolution : Resolution) : Int × Reading :=
  let dayBefore := Instant.ofSeconds (reading - secondsPerDay)
  let before := source.totalAt dayBefore
  let after := source.totalAt (.ofSeconds (reading + secondsPerDay))
  if before = after then (reading - before, .unique)
  else
    match source.nextChange dayBefore with
    | none => (reading - before, .unique)
    | some change =>
      let second := change.wholeSeconds
      if reading < second + min before after then (reading - before, .unique)
      else if second + max before after ≤ reading then (reading - after, .unique)
      else
        let (kind, side) :=
          if after < before then (Reading.fold, resolution.repeated)
          else (Reading.gap, resolution.skipped)
        match side with
        | .former => (reading - before, kind)
        | .latter => (reading - after, kind)

/-- The second at which a clock shows `reading`. -/
def toUtc (reading : Int) (resolution : Resolution) : Int := (source.resolve reading resolution).1

/-- What a clock shows at a second. -/
def toLocal (second : Int) : Int := second + source.totalAt (.ofSeconds second)

end OffsetSource

end Almanac
