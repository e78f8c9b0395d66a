import Almanac.Zone.Regions.Africa
import Almanac.Zone.Regions.America
import Almanac.Zone.Regions.Asia
import Almanac.Zone.Regions.Europe
import Almanac.Zone.Regions.Pacific

/-!
# Named regions

* `Region.database`: the names that are known and the offsets of each.
* `Region.find?`: the offsets of a name; names are case-sensitive.
-/

namespace Almanac

namespace Region

/-- One pair of offsets for all time. -/
def constant (offset : Int) : OffsetTable := ⟨⟨offset, 0⟩, []⟩

/-- The known names. Several names may share one table. Nothing else depends on which names these
are: a text is read as a zone with any lookup of names. -/
def database : List (String × OffsetTable) :=
  [("America/Los_Angeles", losAngeles),
    ("US/Pacific", losAngeles),
    ("America/Toronto", toronto),
    ("Europe/Berlin", berlin),
    ("America/Sao_Paulo", saoPaulo),
    ("Asia/Kolkata", kolkata),
    ("Asia/Calcutta", kolkata),
    ("Europe/Moscow", moscow),
    ("Australia/Lord_Howe", lordHowe),
    ("Pacific/Apia", apia),
    ("Europe/Dublin", dublin),
    ("Asia/Kathmandu", kathmandu),
    ("Antarctica/Troll", troll),
    ("Pacific/Kwajalein", kwajalein),
    ("Africa/Monrovia", monrovia),
    ("America/Caracas", caracas),
    ("Africa/Casablanca", casablanca),
    ("Asia/Manila", manila),
    ("EST", eastern),
    ("UTC", constant 0),
    ("GMT", constant 0),
    ("GMT+0", constant 0),
    ("GMT0", constant 0),
    ("GMT-0", constant 0),
    ("Etc/GMT+8", constant (-28800))]

/-- The offsets of a name. -/
def find? (name : String) : Option OffsetTable := database.lookup name

end Region

end Almanac
