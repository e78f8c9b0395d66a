import Almanac.Zone.Change

/-!
# Time zones

* `FixedOffset`: an offset of less than a day either way.
* `Zone`: a fixed offset or a named region.
* `Zone.identifier`: the text that names a zone.
* `Zone.source`: the offsets of a zone over time.
-/

namespace Almanac

/-- An offset from UTC in seconds, strictly within one day. -/
structure FixedOffset where
  seconds : Int
  within_day : -secondsPerDay < seconds ∧ seconds < secondsPerDay
deriving DecidableEq

/-- The fixed offset of a number of seconds, unless that is a day or more. -/
def FixedOffset.ofSeconds? (seconds : Int) : Option FixedOffset :=
  if h : -secondsPerDay < seconds ∧ seconds < secondsPerDay then some ⟨seconds, h⟩ else none

/-- A time zone. Regions of different names are different zones, even with the same offsets. -/
inductive Zone where
  | fixed (offset : FixedOffset)
  | region (name : String) (table : OffsetTable)
deriving DecidableEq

namespace Zone

/-- Universal time, as a fixed offset. -/
def utc : Zone := fixed ⟨0, by decide⟩

instance : Inhabited Zone := ⟨utc⟩

/-- A number below a hundred in two digits. -/
def twoDigits (n : Nat) : String :=
  let digits := Nat.toDigits 10 n
  .ofList (if n < 10 then '0' :: digits else digits)

/-- The name of a region; for a fixed offset its sign, hours and minutes. -/
def identifier : Zone → String
  | region name _ => name
  | fixed offset =>
    let size := offset.seconds.natAbs
    (if offset.seconds < 0 then "GMT-" else "GMT+") ++
      twoDigits (size / 3600) ++ ":" ++ twoDigits (size % 3600 / 60)

/-- The offsets of a zone over time. -/
def source : Zone → OffsetSource
  | fixed offset => .constant offset.seconds
  | region _ table => table.source

end Zone

end Almanac
