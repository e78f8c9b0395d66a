import Almanac.Zone.Yearly

/-!
# Offsets in Europe

Spans as the time-zone database has them: the first second of each, its standard offset, and its
daylight-saving part.
-/

namespace Almanac

namespace Region

/-- The offsets of Berlin. -/
def berlin : OffsetTable where
  first := ⟨3208, 0⟩
  later :=
    [⟨-2422054408, ⟨3600, 0⟩⟩, ⟨-1693706400, ⟨3600, 3600⟩⟩, ⟨-1680483600, ⟨3600, 0⟩⟩,
      ⟨-1663455600, ⟨3600, 3600⟩⟩, ⟨-1650150000, ⟨3600, 0⟩⟩, ⟨-1632006000, ⟨3600, 3600⟩⟩,
      ⟨-1618700400, ⟨3600, 0⟩⟩, ⟨-938905200, ⟨3600, 3600⟩⟩, ⟨-857257200, ⟨3600, 0⟩⟩,
      ⟨-844556400, ⟨3600, 3600⟩⟩, ⟨-828226800, ⟨3600, 0⟩⟩, ⟨-812502000, ⟨3600, 3600⟩⟩,
      ⟨-796777200, ⟨3600, 0⟩⟩, ⟨-781052400, ⟨3600, 3600⟩⟩, ⟨-776563200, ⟨3600, 7200⟩⟩,
      ⟨-765936000, ⟨3600, 3600⟩⟩, ⟨-761180400, ⟨3600, 0⟩⟩, ⟨-748479600, ⟨3600, 3600⟩⟩,
      ⟨-733273200, ⟨3600, 0⟩⟩, ⟨-717631200, ⟨3600, 3600⟩⟩, ⟨-714610800, ⟨3600, 7200⟩⟩,
      ⟨-710380800, ⟨3600, 3600⟩⟩, ⟨-701910000, ⟨3600, 0⟩⟩, ⟨-684975600, ⟨3600, 3600⟩⟩,
      ⟨-670460400, ⟨3600, 0⟩⟩, ⟨-654130800, ⟨3600, 3600⟩⟩, ⟨-639010800, ⟨3600, 0⟩⟩,
      ⟨323830800, ⟨3600, 3600⟩⟩, ⟨338950800, ⟨3600, 0⟩⟩, ⟨354675600, ⟨3600, 3600⟩⟩,
      ⟨370400400, ⟨3600, 0⟩⟩, ⟨386125200, ⟨3600, 3600⟩⟩, ⟨401850000, ⟨3600, 0⟩⟩,
      ⟨417574800, ⟨3600, 3600⟩⟩, ⟨433299600, ⟨3600, 0⟩⟩, ⟨449024400, ⟨3600, 3600⟩⟩,
      ⟨465354000, ⟨3600, 0⟩⟩, ⟨481078800, ⟨3600, 3600⟩⟩, ⟨496803600, ⟨3600, 0⟩⟩,
      ⟨512528400, ⟨3600, 3600⟩⟩, ⟨528253200, ⟨3600, 0⟩⟩, ⟨543978000, ⟨3600, 3600⟩⟩,
      ⟨559702800, ⟨3600, 0⟩⟩, ⟨575427600, ⟨3600, 3600⟩⟩, ⟨591152400, ⟨3600, 0⟩⟩,
      ⟨606877200, ⟨3600, 3600⟩⟩, ⟨622602000, ⟨3600, 0⟩⟩, ⟨638326800, ⟨3600, 3600⟩⟩,
      ⟨654656400, ⟨3600, 0⟩⟩, ⟨670381200, ⟨3600, 3600⟩⟩, ⟨686106000, ⟨3600, 0⟩⟩,
      ⟨701830800, ⟨3600, 3600⟩⟩, ⟨717555600, ⟨3600, 0⟩⟩, ⟨733280400, ⟨3600, 3600⟩⟩,
      ⟨749005200, ⟨3600, 0⟩⟩, ⟨764730000, ⟨3600, 3600⟩⟩, ⟨780454800, ⟨3600, 0⟩⟩,
      ⟨796179600, ⟨3600, 3600⟩⟩, ⟨811904400, ⟨3600, 0⟩⟩, ⟨828234000, ⟨3600, 3600⟩⟩,
      ⟨846378000, ⟨3600, 0⟩⟩, ⟨859683600, ⟨3600, 3600⟩⟩, ⟨877827600, ⟨3600, 0⟩⟩,
      ⟨891133200, ⟨3600, 3600⟩⟩, ⟨909277200, ⟨3600, 0⟩⟩, ⟨922582800, ⟨3600, 3600⟩⟩,
      ⟨941331600, ⟨3600, 0⟩⟩, ⟨954032400, ⟨3600, 3600⟩⟩, ⟨972781200, ⟨3600, 0⟩⟩,
      ⟨985482000, ⟨3600, 3600⟩⟩, ⟨1004230800, ⟨3600, 0⟩⟩, ⟨1017536400, ⟨3600, 3600⟩⟩,
      ⟨1035680400, ⟨3600, 0⟩⟩, ⟨1048986000, ⟨3600, 3600⟩⟩, ⟨1067130000, ⟨3600, 0⟩⟩,
      ⟨1080435600, ⟨3600, 3600⟩⟩, ⟨1099184400, ⟨3600, 0⟩⟩, ⟨1111885200, ⟨3600, 3600⟩⟩,
      ⟨1130634000, ⟨3600, 0⟩⟩, ⟨1143334800, ⟨3600, 3600⟩⟩, ⟨1162083600, ⟨3600, 0⟩⟩,
      ⟨1174784400, ⟨3600, 3600⟩⟩, ⟨1193533200, ⟨3600, 0⟩⟩] ++
    YearlyChange.spans
      [⟨.last, 3, 3600, ⟨3600, 3600⟩⟩, ⟨.last, 10, 3600, ⟨3600, 0⟩⟩] 2008 92

/-- The offsets of Dublin. -/
def dublin : OffsetTable where
  first := ⟨-1521, 0⟩
  later :=
    [⟨-1691962479, ⟨-1521, 3600⟩⟩, ⟨-1680471279, ⟨0, 0⟩⟩, ⟨-1664143200, ⟨0, 3600⟩⟩,
      ⟨-1650146400, ⟨0, 0⟩⟩, ⟨-1633903200, ⟨0, 3600⟩⟩, ⟨-1617487200, ⟨0, 0⟩⟩,
      ⟨-1601848800, ⟨0, 3600⟩⟩, ⟨-1586037600, ⟨0, 0⟩⟩, ⟨-1570399200, ⟨0, 3600⟩⟩,
      ⟨-1552168800, ⟨0, 0⟩⟩, ⟨-1538344800, ⟨0, 3600⟩⟩, ⟨-1522533600, ⟨0, 0⟩⟩,
      ⟨-1507500000, ⟨0, 3600⟩⟩, ⟨-1490565600, ⟨0, 0⟩⟩, ⟨-1473631200, ⟨0, 3600⟩⟩,
      ⟨-1460930400, ⟨0, 0⟩⟩, ⟨-1442786400, ⟨0, 3600⟩⟩, ⟨-1428876000, ⟨0, 0⟩⟩,
      ⟨-1410732000, ⟨0, 3600⟩⟩, ⟨-1396216800, ⟨0, 0⟩⟩, ⟨-1379282400, ⟨0, 3600⟩⟩,
      ⟨-1364767200, ⟨0, 0⟩⟩, ⟨-1348437600, ⟨0, 3600⟩⟩, ⟨-1333317600, ⟨0, 0⟩⟩,
      ⟨-1315778400, ⟨0, 3600⟩⟩, ⟨-1301263200, ⟨0, 0⟩⟩, ⟨-1284328800, ⟨0, 3600⟩⟩,
      ⟨-1269813600, ⟨0, 0⟩⟩, ⟨-1253484000, ⟨0, 3600⟩⟩, ⟨-1238364000, ⟨0, 0⟩⟩,
      ⟨-1221429600, ⟨0, 3600⟩⟩, ⟨-1206914400, ⟨0, 0⟩⟩, ⟨-1189980000, ⟨0, 3600⟩⟩,
      ⟨-1175464800, ⟨0, 0⟩⟩, ⟨-1159135200, ⟨0, 3600⟩⟩, ⟨-1143410400, ⟨0, 0⟩⟩,
      ⟨-1126476000, ⟨0, 3600⟩⟩, ⟨-1111960800, ⟨0, 0⟩⟩, ⟨-1095631200, ⟨0, 3600⟩⟩,
      ⟨-1080511200, ⟨0, 0⟩⟩, ⟨-1063576800, ⟨0, 3600⟩⟩, ⟨-1049061600, ⟨0, 0⟩⟩,
      ⟨-1032127200, ⟨0, 3600⟩⟩, ⟨-1017612000, ⟨0, 0⟩⟩, ⟨-1001282400, ⟨0, 3600⟩⟩,
      ⟨-986162400, ⟨0, 0⟩⟩, ⟨-969228000, ⟨0, 3600⟩⟩, ⟨-950479200, ⟨0, 0⟩⟩, ⟨-942012000, ⟨0, 3600⟩⟩,
      ⟨-733356000, ⟨0, 0⟩⟩, ⟨-719445600, ⟨0, 3600⟩⟩, ⟨-699487200, ⟨0, 0⟩⟩, ⟨-684972000, ⟨0, 3600⟩⟩,
      ⟨-668037600, ⟨0, 0⟩⟩, ⟨-654732000, ⟨0, 3600⟩⟩, ⟨-636588000, ⟨0, 0⟩⟩, ⟨-622072800, ⟨0, 3600⟩⟩,
      ⟨-605743200, ⟨0, 0⟩⟩, ⟨-590623200, ⟨0, 3600⟩⟩, ⟨-574293600, ⟨0, 0⟩⟩, ⟨-558568800, ⟨0, 3600⟩⟩,
      ⟨-542239200, ⟨0, 0⟩⟩, ⟨-527119200, ⟨0, 3600⟩⟩, ⟨-512604000, ⟨0, 0⟩⟩, ⟨-496274400, ⟨0, 3600⟩⟩,
      ⟨-481154400, ⟨0, 0⟩⟩, ⟨-464220000, ⟨0, 3600⟩⟩, ⟨-449704800, ⟨0, 0⟩⟩, ⟨-432165600, ⟨0, 3600⟩⟩,
      ⟨-417650400, ⟨0, 0⟩⟩, ⟨-401320800, ⟨0, 3600⟩⟩, ⟨-386200800, ⟨0, 0⟩⟩, ⟨-369266400, ⟨0, 3600⟩⟩,
      ⟨-354751200, ⟨0, 0⟩⟩, ⟨-337816800, ⟨0, 3600⟩⟩, ⟨-323301600, ⟨0, 0⟩⟩, ⟨-306972000, ⟨0, 3600⟩⟩,
      ⟨-291852000, ⟨0, 0⟩⟩, ⟨-276732000, ⟨0, 3600⟩⟩, ⟨-257983200, ⟨0, 0⟩⟩, ⟨-245282400, ⟨0, 3600⟩⟩,
      ⟨-226533600, ⟨0, 0⟩⟩, ⟨-213228000, ⟨0, 3600⟩⟩, ⟨-195084000, ⟨0, 0⟩⟩, ⟨-182383200, ⟨0, 3600⟩⟩,
      ⟨-163634400, ⟨0, 0⟩⟩, ⟨-150933600, ⟨0, 3600⟩⟩, ⟨-132184800, ⟨0, 0⟩⟩, ⟨-119484000, ⟨0, 3600⟩⟩,
      ⟨-100735200, ⟨0, 0⟩⟩, ⟨-88034400, ⟨0, 3600⟩⟩, ⟨-68680800, ⟨0, 0⟩⟩, ⟨-59004000, ⟨0, 3600⟩⟩,
      ⟨-37242000, ⟨3600, 0⟩⟩, ⟨57722400, ⟨3600, -3600⟩⟩, ⟨69818400, ⟨3600, 0⟩⟩,
      ⟨89172000, ⟨3600, -3600⟩⟩, ⟨101268000, ⟨3600, 0⟩⟩, ⟨120621600, ⟨3600, -3600⟩⟩,
      ⟨132717600, ⟨3600, 0⟩⟩, ⟨152071200, ⟨3600, -3600⟩⟩, ⟨164167200, ⟨3600, 0⟩⟩,
      ⟨183520800, ⟨3600, -3600⟩⟩, ⟨196221600, ⟨3600, 0⟩⟩, ⟨214970400, ⟨3600, -3600⟩⟩,
      ⟨227671200, ⟨3600, 0⟩⟩, ⟨246420000, ⟨3600, -3600⟩⟩, ⟨259120800, ⟨3600, 0⟩⟩,
      ⟨278474400, ⟨3600, -3600⟩⟩, ⟨290570400, ⟨3600, 0⟩⟩, ⟨309924000, ⟨3600, -3600⟩⟩,
      ⟨322020000, ⟨3600, 0⟩⟩, ⟨341373600, ⟨3600, -3600⟩⟩, ⟨354675600, ⟨3600, 0⟩⟩,
      ⟨372819600, ⟨3600, -3600⟩⟩, ⟨386125200, ⟨3600, 0⟩⟩, ⟨404269200, ⟨3600, -3600⟩⟩,
      ⟨417574800, ⟨3600, 0⟩⟩, ⟨435718800, ⟨3600, -3600⟩⟩, ⟨449024400, ⟨3600, 0⟩⟩,
      ⟨467773200, ⟨3600, -3600⟩⟩, ⟨481078800, ⟨3600, 0⟩⟩, ⟨499222800, ⟨3600, -3600⟩⟩,
      ⟨512528400, ⟨3600, 0⟩⟩, ⟨530672400, ⟨3600, -3600⟩⟩, ⟨543978000, ⟨3600, 0⟩⟩,
      ⟨562122000, ⟨3600, -3600⟩⟩, ⟨575427600, ⟨3600, 0⟩⟩, ⟨593571600, ⟨3600, -3600⟩⟩,
      ⟨606877200, ⟨3600, 0⟩⟩, ⟨625626000, ⟨3600, -3600⟩⟩, ⟨638326800, ⟨3600, 0⟩⟩,
      ⟨657075600, ⟨3600, -3600⟩⟩, ⟨670381200, ⟨3600, 0⟩⟩, ⟨688525200, ⟨3600, -3600⟩⟩,
      ⟨701830800, ⟨3600, 0⟩⟩, ⟨719974800, ⟨3600, -3600⟩⟩, ⟨733280400, ⟨3600, 0⟩⟩,
      ⟨751424400, ⟨3600, -3600⟩⟩, ⟨764730000, ⟨3600, 0⟩⟩, ⟨782874000, ⟨3600, -3600⟩⟩,
      ⟨796179600, ⟨3600, 0⟩⟩, ⟨814323600, ⟨3600, -3600⟩⟩, ⟨828234000, ⟨3600, 0⟩⟩,
      ⟨846378000, ⟨3600, -3600⟩⟩, ⟨859683600, ⟨3600, 0⟩⟩, ⟨877827600, ⟨3600, -3600⟩⟩,
      ⟨891133200, ⟨3600, 0⟩⟩, ⟨909277200, ⟨3600, -3600⟩⟩, ⟨922582800, ⟨3600, 0⟩⟩,
      ⟨941331600, ⟨3600, -3600⟩⟩, ⟨954032400, ⟨3600, 0⟩⟩, ⟨972781200, ⟨3600, -3600⟩⟩,
      ⟨985482000, ⟨3600, 0⟩⟩, ⟨1004230800, ⟨3600, -3600⟩⟩, ⟨1017536400, ⟨3600, 0⟩⟩,
      ⟨1035680400, ⟨3600, -3600⟩⟩, ⟨1048986000, ⟨3600, 0⟩⟩, ⟨1067130000, ⟨3600, -3600⟩⟩,
      ⟨1080435600, ⟨3600, 0⟩⟩, ⟨1099184400, ⟨3600, -3600⟩⟩, ⟨1111885200, ⟨3600, 0⟩⟩,
      ⟨1130634000, ⟨3600, -3600⟩⟩, ⟨1143334800, ⟨3600, 0⟩⟩, ⟨1162083600, ⟨3600, -3600⟩⟩,
      ⟨1174784400, ⟨3600, 0⟩⟩, ⟨1193533200, ⟨3600, -3600⟩⟩] ++
    YearlyChange.spans
      [⟨.last, 3, 3600, ⟨3600, 0⟩⟩, ⟨.last, 10, 3600, ⟨3600, -3600⟩⟩] 2008 92

/-- The offsets of Moscow. -/
def moscow : OffsetTable where
  first := ⟨9017, 0⟩
  later :=
    [⟨-1688265017, ⟨9079, 0⟩⟩, ⟨-1656819079, ⟨9079, 3600⟩⟩, ⟨-1641353479, ⟨9079, 0⟩⟩,
      ⟨-1627965079, ⟨9079, 7200⟩⟩, ⟨-1618716679, ⟨9079, 3600⟩⟩, ⟨-1596429079, ⟨9079, 7200⟩⟩,
      ⟨-1593820800, ⟨10800, 3600⟩⟩, ⟨-1589860800, ⟨10800, 0⟩⟩, ⟨-1542427200, ⟨10800, 3600⟩⟩,
      ⟨-1539493200, ⟨10800, 7200⟩⟩, ⟨-1525323600, ⟨10800, 3600⟩⟩, ⟨-1522728000, ⟨10800, 0⟩⟩,
      ⟨-1491188400, ⟨7200, 0⟩⟩, ⟨-1247536800, ⟨10800, 0⟩⟩, ⟨354920400, ⟨10800, 3600⟩⟩,
      ⟨370728000, ⟨10800, 0⟩⟩, ⟨386456400, ⟨10800, 3600⟩⟩, ⟨402264000, ⟨10800, 0⟩⟩,
      ⟨417992400, ⟨10800, 3600⟩⟩, ⟨433800000, ⟨10800, 0⟩⟩, ⟨449614800, ⟨10800, 3600⟩⟩,
      ⟨465346800, ⟨10800, 0⟩⟩, ⟨481071600, ⟨10800, 3600⟩⟩, ⟨496796400, ⟨10800, 0⟩⟩,
      ⟨512521200, ⟨10800, 3600⟩⟩, ⟨528246000, ⟨10800, 0⟩⟩, ⟨543970800, ⟨10800, 3600⟩⟩,
      ⟨559695600, ⟨10800, 0⟩⟩, ⟨575420400, ⟨10800, 3600⟩⟩, ⟨591145200, ⟨10800, 0⟩⟩,
      ⟨606870000, ⟨10800, 3600⟩⟩, ⟨622594800, ⟨10800, 0⟩⟩, ⟨638319600, ⟨10800, 3600⟩⟩,
      ⟨654649200, ⟨10800, 0⟩⟩, ⟨670374000, ⟨7200, 3600⟩⟩, ⟨686102400, ⟨7200, 0⟩⟩,
      ⟨695779200, ⟨10800, 0⟩⟩, ⟨701823600, ⟨10800, 3600⟩⟩, ⟨717548400, ⟨10800, 0⟩⟩,
      ⟨733273200, ⟨10800, 3600⟩⟩, ⟨748998000, ⟨10800, 0⟩⟩, ⟨764722800, ⟨10800, 3600⟩⟩,
      ⟨780447600, ⟨10800, 0⟩⟩, ⟨796172400, ⟨10800, 3600⟩⟩, ⟨811897200, ⟨10800, 0⟩⟩,
      ⟨828226800, ⟨10800, 3600⟩⟩, ⟨846370800, ⟨10800, 0⟩⟩, ⟨859676400, ⟨10800, 3600⟩⟩,
      ⟨877820400, ⟨10800, 0⟩⟩, ⟨891126000, ⟨10800, 3600⟩⟩, ⟨909270000, ⟨10800, 0⟩⟩,
      ⟨922575600, ⟨10800, 3600⟩⟩, ⟨941324400, ⟨10800, 0⟩⟩, ⟨954025200, ⟨10800, 3600⟩⟩,
      ⟨972774000, ⟨10800, 0⟩⟩, ⟨985474800, ⟨10800, 3600⟩⟩, ⟨1004223600, ⟨10800, 0⟩⟩,
      ⟨1017529200, ⟨10800, 3600⟩⟩, ⟨1035673200, ⟨10800, 0⟩⟩, ⟨1048978800, ⟨10800, 3600⟩⟩,
      ⟨1067122800, ⟨10800, 0⟩⟩, ⟨1080428400, ⟨10800, 3600⟩⟩, ⟨1099177200, ⟨10800, 0⟩⟩,
      ⟨1111878000, ⟨10800, 3600⟩⟩, ⟨1130626800, ⟨10800, 0⟩⟩, ⟨1143327600, ⟨10800, 3600⟩⟩,
      ⟨1162076400, ⟨10800, 0⟩⟩, ⟨1174777200, ⟨10800, 3600⟩⟩, ⟨1193526000, ⟨10800, 0⟩⟩,
      ⟨1206831600, ⟨10800, 3600⟩⟩, ⟨1224975600, ⟨10800, 0⟩⟩, ⟨1238281200, ⟨10800, 3600⟩⟩,
      ⟨1256425200, ⟨10800, 0⟩⟩, ⟨1269730800, ⟨10800, 3600⟩⟩, ⟨1288479600, ⟨10800, 0⟩⟩,
      ⟨1301180400, ⟨14400, 0⟩⟩, ⟨1414274400, ⟨10800, 0⟩⟩]

end Region

end Almanac
