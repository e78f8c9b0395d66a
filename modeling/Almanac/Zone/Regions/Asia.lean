import Almanac.Zone.Yearly

/-!
# Offsets in Asia

Spans as the time-zone database has them: the first second of each, its standard offset, and its
daylight-saving part.
-/

namespace Almanac

namespace Region

/-- The offsets of Kolkata. -/
def kolkata : OffsetTable where
  first := ⟨21208, 0⟩
  later :=
    [⟨-3645237208, ⟨21200, 0⟩⟩, ⟨-3155694800, ⟨19270, 0⟩⟩, ⟨-2019705670, ⟨19800, 0⟩⟩,
      ⟨-891581400, ⟨19800, 3600⟩⟩, ⟨-872058600, ⟨19800, 0⟩⟩, ⟨-862637400, ⟨19800, 3600⟩⟩,
      ⟨-764145000, ⟨19800, 0⟩⟩]

/-- The offsets of Kathmandu. -/
def kathmandu : OffsetTable where
  first := ⟨20476, 0⟩
  later :=
    [⟨-1577943676, ⟨19800, 0⟩⟩, ⟨504901800, ⟨20700, 0⟩⟩]

/-- The offsets of Manila. -/
def manila : OffsetTable where
  first := ⟨-57368, 0⟩
  later :=
    [⟨-3944621032, ⟨29032, 0⟩⟩, ⟨-2219083200, ⟨28800, 0⟩⟩, ⟨-1046678400, ⟨28800, 3600⟩⟩,
      ⟨-1040115600, ⟨28800, 0⟩⟩, ⟨-885024000, ⟨28800, 3600⟩⟩, ⟨-880016400, ⟨32400, 0⟩⟩,
      ⟨-783594000, ⟨28800, 3600⟩⟩, ⟨-760093200, ⟨28800, 0⟩⟩, ⟨-496224000, ⟨28800, 3600⟩⟩,
      ⟨-491562000, ⟨28800, 0⟩⟩, ⟨228326400, ⟨28800, 3600⟩⟩, ⟨243702000, ⟨28800, 0⟩⟩,
      ⟨643219200, ⟨28800, 3600⟩⟩, ⟨649177200, ⟨28800, 0⟩⟩]

end Region

end Almanac
