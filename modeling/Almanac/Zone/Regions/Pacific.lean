import Almanac.Zone.Yearly

/-!
# Offsets in the Pacific and Australia

Spans as the time-zone database has them: the first second of each, its standard offset, and its
daylight-saving part.
-/

namespace Almanac

namespace Region

/-- The offsets of Apia. -/
def apia : OffsetTable where
  first := ⟨45184, 0⟩
  later :=
    [⟨-2445424384, ⟨-41216, 0⟩⟩, ⟨-1861878784, ⟨-41400, 0⟩⟩, ⟨-631110600, ⟨-39600, 0⟩⟩,
      ⟨1285498800, ⟨-39600, 3600⟩⟩, ⟨1301752800, ⟨-39600, 0⟩⟩, ⟨1316872800, ⟨-39600, 3600⟩⟩,
      ⟨1325239200, ⟨46800, 3600⟩⟩, ⟨1333202400, ⟨46800, 0⟩⟩, ⟨1348927200, ⟨46800, 3600⟩⟩,
      ⟨1365256800, ⟨46800, 0⟩⟩, ⟨1380376800, ⟨46800, 3600⟩⟩, ⟨1396706400, ⟨46800, 0⟩⟩,
      ⟨1411826400, ⟨46800, 3600⟩⟩, ⟨1428156000, ⟨46800, 0⟩⟩, ⟨1443276000, ⟨46800, 3600⟩⟩,
      ⟨1459605600, ⟨46800, 0⟩⟩, ⟨1474725600, ⟨46800, 3600⟩⟩, ⟨1491055200, ⟨46800, 0⟩⟩,
      ⟨1506175200, ⟨46800, 3600⟩⟩, ⟨1522504800, ⟨46800, 0⟩⟩, ⟨1538229600, ⟨46800, 3600⟩⟩,
      ⟨1554559200, ⟨46800, 0⟩⟩, ⟨1569679200, ⟨46800, 3600⟩⟩, ⟨1586008800, ⟨46800, 0⟩⟩,
      ⟨1601128800, ⟨46800, 3600⟩⟩, ⟨1617458400, ⟨46800, 0⟩⟩]

/-- The offsets of Kwajalein. -/
def kwajalein : OffsetTable where
  first := ⟨40160, 0⟩
  later :=
    [⟨-2177492960, ⟨39600, 0⟩⟩, ⟨-1041418800, ⟨36000, 0⟩⟩, ⟨-907408800, ⟨32400, 0⟩⟩,
      ⟨-817462800, ⟨39600, 0⟩⟩, ⟨-7988400, ⟨-43200, 0⟩⟩, ⟨745934400, ⟨43200, 0⟩⟩]

/-- The offsets of Lord Howe. -/
def lordHowe : OffsetTable where
  first := ⟨38180, 0⟩
  later :=
    [⟨-2364114980, ⟨36000, 0⟩⟩, ⟨352216800, ⟨37800, 0⟩⟩, ⟨372785400, ⟨37800, 3600⟩⟩,
      ⟨384273000, ⟨37800, 0⟩⟩, ⟨404839800, ⟨37800, 3600⟩⟩, ⟨415722600, ⟨37800, 0⟩⟩,
      ⟨436289400, ⟨37800, 3600⟩⟩, ⟨447172200, ⟨37800, 0⟩⟩, ⟨467739000, ⟨37800, 3600⟩⟩,
      ⟨478621800, ⟨37800, 0⟩⟩, ⟨499188600, ⟨37800, 1800⟩⟩, ⟨511282800, ⟨37800, 0⟩⟩,
      ⟨530033400, ⟨37800, 1800⟩⟩, ⟨542732400, ⟨37800, 0⟩⟩, ⟨562087800, ⟨37800, 1800⟩⟩,
      ⟨574786800, ⟨37800, 0⟩⟩, ⟨594142200, ⟨37800, 1800⟩⟩, ⟨606236400, ⟨37800, 0⟩⟩,
      ⟨625591800, ⟨37800, 1800⟩⟩, ⟨636476400, ⟨37800, 0⟩⟩, ⟨657041400, ⟨37800, 1800⟩⟩,
      ⟨667926000, ⟨37800, 0⟩⟩, ⟨688491000, ⟨37800, 1800⟩⟩, ⟨699375600, ⟨37800, 0⟩⟩,
      ⟨719940600, ⟨37800, 1800⟩⟩, ⟨731430000, ⟨37800, 0⟩⟩, ⟨751995000, ⟨37800, 1800⟩⟩,
      ⟨762879600, ⟨37800, 0⟩⟩, ⟨783444600, ⟨37800, 1800⟩⟩, ⟨794329200, ⟨37800, 0⟩⟩,
      ⟨814894200, ⟨37800, 1800⟩⟩, ⟨828198000, ⟨37800, 0⟩⟩, ⟨846343800, ⟨37800, 1800⟩⟩,
      ⟨859647600, ⟨37800, 0⟩⟩, ⟨877793400, ⟨37800, 1800⟩⟩, ⟨891097200, ⟨37800, 0⟩⟩,
      ⟨909243000, ⟨37800, 1800⟩⟩, ⟨922546800, ⟨37800, 0⟩⟩, ⟨941297400, ⟨37800, 1800⟩⟩,
      ⟨953996400, ⟨37800, 0⟩⟩, ⟨967303800, ⟨37800, 1800⟩⟩, ⟨985446000, ⟨37800, 0⟩⟩,
      ⟨1004196600, ⟨37800, 1800⟩⟩, ⟨1017500400, ⟨37800, 0⟩⟩, ⟨1035646200, ⟨37800, 1800⟩⟩,
      ⟨1048950000, ⟨37800, 0⟩⟩, ⟨1067095800, ⟨37800, 1800⟩⟩, ⟨1080399600, ⟨37800, 0⟩⟩,
      ⟨1099150200, ⟨37800, 1800⟩⟩, ⟨1111849200, ⟨37800, 0⟩⟩, ⟨1130599800, ⟨37800, 1800⟩⟩,
      ⟨1143903600, ⟨37800, 0⟩⟩, ⟨1162049400, ⟨37800, 1800⟩⟩, ⟨1174748400, ⟨37800, 0⟩⟩,
      ⟨1193499000, ⟨37800, 1800⟩⟩, ⟨1207407600, ⟨37800, 0⟩⟩, ⟨1223134200, ⟨37800, 1800⟩⟩] ++
    YearlyChange.spans
      [⟨.first, 4, -32400, ⟨37800, 0⟩⟩, ⟨.first, 10, -30600, ⟨37800, 1800⟩⟩] 2009 91

end Region

end Almanac
