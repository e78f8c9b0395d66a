import Almanac.Instant

/-!
# Offsets from universal time

* `Offsets`: the standard offset of a zone and its daylight-saving part, in seconds east.
* `OffsetTable`: the offsets over the whole time line, as spans that begin at given seconds.
* `OffsetSource`: what a wall clock needs to know: offsets at an instant, and the next change.
-/

namespace Almanac

/-- A standard offset and what daylight saving adds to it, in seconds east of UTC. -/
structure Offsets where
  raw : Int
  dst : Int
deriving DecidableEq, Inhabited

namespace Offsets

/-- What a wall clock shows ahead of UTC. -/
def total (o : Offsets) : Int := o.raw + o.dst

/-- Whether daylight saving is in force. -/
def isDst (o : Offsets) : Bool := o.dst ≠ 0

end Offsets

/-! ## Tables -/

/-- Offsets in force from a second on. -/
structure Span where
  start : Int
  offsets : Offsets
deriving DecidableEq

/-- The offsets of a place: those from the beginning of time, and the later spans in ascending
order. -/
structure OffsetTable where
  first : Offsets
  later : List Span
deriving DecidableEq

namespace OffsetTable

/-- The offsets of the last span that has begun at `second`, with `current` in force so far. -/
def follow (second : Int) (current : Offsets) : List Span → Offsets
  | [] => current
  | span :: rest => if span.start ≤ second then follow second span.offsets rest else current

/-- The offsets in force at a second. -/
def offsetsAt (table : OffsetTable) (second : Int) : Offsets :=
  follow second table.first table.later

/-- The table of spans that reach back to the beginning of time. -/
def ofSpans? : List Span → Option OffsetTable
  | [] => none
  | span :: rest => some ⟨span.offsets, rest⟩

end OffsetTable

/-! ## Sources -/

/-- A source of offsets. It need not be consistent: `nextChange` is what the source says. -/
structure OffsetSource where
  offsetsAt : Instant → Offsets
  nextChange : Instant → Option Instant

namespace OffsetSource

/-- The total offset at an instant. -/
def totalAt (source : OffsetSource) (instant : Instant) : Int := (source.offsetsAt instant).total

/-- The source of one offset that never changes. -/
def constant (offset : Int) : OffsetSource := ⟨fun _ => ⟨offset, 0⟩, fun _ => none⟩

/-- The source of a table whose changes are those of an ascending list. -/
def listed (table : OffsetTable) (changes : List Int) : OffsetSource where
  offsetsAt t := table.offsetsAt t.wholeSeconds
  nextChange t := (changes.find? fun second => t.wholeSeconds < second).map Instant.ofSeconds

end OffsetSource

end Almanac
