import Almanac.Zone.Yearly

/-!
# Offsets in the Americas

Spans as the time-zone database has them: the first second of each, its standard offset, and its
daylight-saving part.
-/

namespace Almanac

namespace Region

/-- The offsets of Los Angeles. -/
def losAngeles : OffsetTable where
  first := ⟨-28378, 0⟩
  later :=
    [⟨-2717640000, ⟨-28800, 0⟩⟩, ⟨-1633269600, ⟨-28800, 3600⟩⟩, ⟨-1615129200, ⟨-28800, 0⟩⟩,
      ⟨-1601820000, ⟨-28800, 3600⟩⟩, ⟨-1583679600, ⟨-28800, 0⟩⟩, ⟨-880207200, ⟨-28800, 3600⟩⟩,
      ⟨-765385200, ⟨-28800, 0⟩⟩, ⟨-687967140, ⟨-28800, 3600⟩⟩, ⟨-662655600, ⟨-28800, 0⟩⟩,
      ⟨-620838000, ⟨-28800, 3600⟩⟩, ⟨-608137200, ⟨-28800, 0⟩⟩, ⟨-589388400, ⟨-28800, 3600⟩⟩,
      ⟨-576082800, ⟨-28800, 0⟩⟩, ⟨-557938800, ⟨-28800, 3600⟩⟩, ⟨-544633200, ⟨-28800, 0⟩⟩,
      ⟨-526489200, ⟨-28800, 3600⟩⟩, ⟨-513183600, ⟨-28800, 0⟩⟩, ⟨-495039600, ⟨-28800, 3600⟩⟩,
      ⟨-481734000, ⟨-28800, 0⟩⟩, ⟨-463590000, ⟨-28800, 3600⟩⟩, ⟨-450284400, ⟨-28800, 0⟩⟩,
      ⟨-431535600, ⟨-28800, 3600⟩⟩, ⟨-418230000, ⟨-28800, 0⟩⟩, ⟨-400086000, ⟨-28800, 3600⟩⟩,
      ⟨-386780400, ⟨-28800, 0⟩⟩, ⟨-368636400, ⟨-28800, 3600⟩⟩, ⟨-355330800, ⟨-28800, 0⟩⟩,
      ⟨-337186800, ⟨-28800, 3600⟩⟩, ⟨-323881200, ⟨-28800, 0⟩⟩, ⟨-305737200, ⟨-28800, 3600⟩⟩,
      ⟨-292431600, ⟨-28800, 0⟩⟩, ⟨-273682800, ⟨-28800, 3600⟩⟩, ⟨-260982000, ⟨-28800, 0⟩⟩,
      ⟨-242233200, ⟨-28800, 3600⟩⟩, ⟨-226508400, ⟨-28800, 0⟩⟩, ⟨-210783600, ⟨-28800, 3600⟩⟩,
      ⟨-195058800, ⟨-28800, 0⟩⟩, ⟨-179334000, ⟨-28800, 3600⟩⟩, ⟨-163609200, ⟨-28800, 0⟩⟩,
      ⟨-147884400, ⟨-28800, 3600⟩⟩, ⟨-131554800, ⟨-28800, 0⟩⟩, ⟨-116434800, ⟨-28800, 3600⟩⟩,
      ⟨-100105200, ⟨-28800, 0⟩⟩, ⟨-84376800, ⟨-28800, 3600⟩⟩, ⟨-68655600, ⟨-28800, 0⟩⟩,
      ⟨-52927200, ⟨-28800, 3600⟩⟩, ⟨-37206000, ⟨-28800, 0⟩⟩, ⟨-21477600, ⟨-28800, 3600⟩⟩,
      ⟨-5756400, ⟨-28800, 0⟩⟩, ⟨9972000, ⟨-28800, 3600⟩⟩, ⟨25693200, ⟨-28800, 0⟩⟩,
      ⟨41421600, ⟨-28800, 3600⟩⟩, ⟨57747600, ⟨-28800, 0⟩⟩, ⟨73476000, ⟨-28800, 3600⟩⟩,
      ⟨89197200, ⟨-28800, 0⟩⟩, ⟨104925600, ⟨-28800, 3600⟩⟩, ⟨120646800, ⟨-28800, 0⟩⟩,
      ⟨126698400, ⟨-28800, 3600⟩⟩, ⟨152096400, ⟨-28800, 0⟩⟩, ⟨162381600, ⟨-28800, 3600⟩⟩,
      ⟨183546000, ⟨-28800, 0⟩⟩, ⟨199274400, ⟨-28800, 3600⟩⟩, ⟨215600400, ⟨-28800, 0⟩⟩,
      ⟨230724000, ⟨-28800, 3600⟩⟩, ⟨247050000, ⟨-28800, 0⟩⟩, ⟨262778400, ⟨-28800, 3600⟩⟩,
      ⟨278499600, ⟨-28800, 0⟩⟩, ⟨294228000, ⟨-28800, 3600⟩⟩, ⟨309949200, ⟨-28800, 0⟩⟩,
      ⟨325677600, ⟨-28800, 3600⟩⟩, ⟨341398800, ⟨-28800, 0⟩⟩, ⟨357127200, ⟨-28800, 3600⟩⟩,
      ⟨372848400, ⟨-28800, 0⟩⟩, ⟨388576800, ⟨-28800, 3600⟩⟩, ⟨404902800, ⟨-28800, 0⟩⟩,
      ⟨420026400, ⟨-28800, 3600⟩⟩, ⟨436352400, ⟨-28800, 0⟩⟩, ⟨452080800, ⟨-28800, 3600⟩⟩,
      ⟨467802000, ⟨-28800, 0⟩⟩, ⟨483530400, ⟨-28800, 3600⟩⟩, ⟨499251600, ⟨-28800, 0⟩⟩,
      ⟨514980000, ⟨-28800, 3600⟩⟩, ⟨530701200, ⟨-28800, 0⟩⟩, ⟨544615200, ⟨-28800, 3600⟩⟩,
      ⟨562150800, ⟨-28800, 0⟩⟩, ⟨576064800, ⟨-28800, 3600⟩⟩, ⟨594205200, ⟨-28800, 0⟩⟩,
      ⟨607514400, ⟨-28800, 3600⟩⟩, ⟨625654800, ⟨-28800, 0⟩⟩, ⟨638964000, ⟨-28800, 3600⟩⟩,
      ⟨657104400, ⟨-28800, 0⟩⟩, ⟨671018400, ⟨-28800, 3600⟩⟩, ⟨688554000, ⟨-28800, 0⟩⟩,
      ⟨702468000, ⟨-28800, 3600⟩⟩, ⟨720003600, ⟨-28800, 0⟩⟩, ⟨733917600, ⟨-28800, 3600⟩⟩,
      ⟨752058000, ⟨-28800, 0⟩⟩, ⟨765367200, ⟨-28800, 3600⟩⟩, ⟨783507600, ⟨-28800, 0⟩⟩,
      ⟨796816800, ⟨-28800, 3600⟩⟩, ⟨814957200, ⟨-28800, 0⟩⟩, ⟨828871200, ⟨-28800, 3600⟩⟩,
      ⟨846406800, ⟨-28800, 0⟩⟩, ⟨860320800, ⟨-28800, 3600⟩⟩, ⟨877856400, ⟨-28800, 0⟩⟩,
      ⟨891770400, ⟨-28800, 3600⟩⟩, ⟨909306000, ⟨-28800, 0⟩⟩, ⟨923220000, ⟨-28800, 3600⟩⟩,
      ⟨941360400, ⟨-28800, 0⟩⟩, ⟨954669600, ⟨-28800, 3600⟩⟩, ⟨972810000, ⟨-28800, 0⟩⟩,
      ⟨986119200, ⟨-28800, 3600⟩⟩, ⟨1004259600, ⟨-28800, 0⟩⟩, ⟨1018173600, ⟨-28800, 3600⟩⟩,
      ⟨1035709200, ⟨-28800, 0⟩⟩, ⟨1049623200, ⟨-28800, 3600⟩⟩, ⟨1067158800, ⟨-28800, 0⟩⟩,
      ⟨1081072800, ⟨-28800, 3600⟩⟩, ⟨1099213200, ⟨-28800, 0⟩⟩, ⟨1112522400, ⟨-28800, 3600⟩⟩,
      ⟨1130662800, ⟨-28800, 0⟩⟩, ⟨1143972000, ⟨-28800, 3600⟩⟩, ⟨1162112400, ⟨-28800, 0⟩⟩,
      ⟨1173607200, ⟨-28800, 3600⟩⟩, ⟨1194166800, ⟨-28800, 0⟩⟩] ++
    YearlyChange.spans
      [⟨.second, 3, 36000, ⟨-28800, 3600⟩⟩, ⟨.first, 11, 32400, ⟨-28800, 0⟩⟩] 2008 92

/-- The offsets of Toronto. -/
def toronto : OffsetTable where
  first := ⟨-19052, 0⟩
  later :=
    [⟨-2366736148, ⟨-18000, 0⟩⟩, ⟨-1632070800, ⟨-18000, 3600⟩⟩, ⟨-1615140000, ⟨-18000, 0⟩⟩,
      ⟨-1601753400, ⟨-18000, 3600⟩⟩, ⟨-1583697600, ⟨-18000, 0⟩⟩, ⟨-1567357200, ⟨-18000, 3600⟩⟩,
      ⟨-1554667200, ⟨-18000, 0⟩⟩, ⟨-1534698000, ⟨-18000, 3600⟩⟩, ⟨-1524074400, ⟨-18000, 0⟩⟩,
      ⟨-1503248400, ⟨-18000, 3600⟩⟩, ⟨-1492365600, ⟨-18000, 0⟩⟩, ⟨-1471798800, ⟨-18000, 3600⟩⟩,
      ⟨-1460916000, ⟨-18000, 0⟩⟩, ⟨-1440954000, ⟨-18000, 3600⟩⟩, ⟨-1428861600, ⟨-18000, 0⟩⟩,
      ⟨-1409504400, ⟨-18000, 3600⟩⟩, ⟨-1397412000, ⟨-18000, 0⟩⟩, ⟨-1378054800, ⟨-18000, 3600⟩⟩,
      ⟨-1365962400, ⟨-18000, 0⟩⟩, ⟨-1346605200, ⟨-18000, 3600⟩⟩, ⟨-1333908000, ⟨-18000, 0⟩⟩,
      ⟨-1315155600, ⟨-18000, 3600⟩⟩, ⟨-1301853600, ⟨-18000, 0⟩⟩, ⟨-1283706000, ⟨-18000, 3600⟩⟩,
      ⟨-1270404000, ⟨-18000, 0⟩⟩, ⟨-1252256400, ⟨-18000, 3600⟩⟩, ⟨-1238954400, ⟨-18000, 0⟩⟩,
      ⟨-1220806800, ⟨-18000, 3600⟩⟩, ⟨-1207504800, ⟨-18000, 0⟩⟩, ⟨-1188752400, ⟨-18000, 3600⟩⟩,
      ⟨-1176055200, ⟨-18000, 0⟩⟩, ⟨-1157302800, ⟨-18000, 3600⟩⟩, ⟨-1144000800, ⟨-18000, 0⟩⟩,
      ⟨-1125853200, ⟨-18000, 3600⟩⟩, ⟨-1112551200, ⟨-18000, 0⟩⟩, ⟨-1094403600, ⟨-18000, 3600⟩⟩,
      ⟨-1081101600, ⟨-18000, 0⟩⟩, ⟨-1062954000, ⟨-18000, 3600⟩⟩, ⟨-1049652000, ⟨-18000, 0⟩⟩,
      ⟨-1031504400, ⟨-18000, 3600⟩⟩, ⟨-1018202400, ⟨-18000, 0⟩⟩, ⟨-1000054800, ⟨-18000, 3600⟩⟩,
      ⟨-986752800, ⟨-18000, 0⟩⟩, ⟨-968000400, ⟨-18000, 3600⟩⟩, ⟨-955303200, ⟨-18000, 0⟩⟩,
      ⟨-936550800, ⟨-18000, 3600⟩⟩, ⟨-765396000, ⟨-18000, 0⟩⟩, ⟨-747248400, ⟨-18000, 3600⟩⟩,
      ⟨-733946400, ⟨-18000, 0⟩⟩, ⟨-715798800, ⟨-18000, 3600⟩⟩, ⟨-702496800, ⟨-18000, 0⟩⟩,
      ⟨-684349200, ⟨-18000, 3600⟩⟩, ⟨-671047200, ⟨-18000, 0⟩⟩, ⟨-652899600, ⟨-18000, 3600⟩⟩,
      ⟨-634154400, ⟨-18000, 0⟩⟩, ⟨-620845200, ⟨-18000, 3600⟩⟩, ⟨-602704800, ⟨-18000, 0⟩⟩,
      ⟨-589395600, ⟨-18000, 3600⟩⟩, ⟨-576093600, ⟨-18000, 0⟩⟩, ⟨-557946000, ⟨-18000, 3600⟩⟩,
      ⟨-544644000, ⟨-18000, 0⟩⟩, ⟨-526496400, ⟨-18000, 3600⟩⟩, ⟨-513194400, ⟨-18000, 0⟩⟩,
      ⟨-495046800, ⟨-18000, 3600⟩⟩, ⟨-481744800, ⟨-18000, 0⟩⟩, ⟨-463597200, ⟨-18000, 3600⟩⟩,
      ⟨-450295200, ⟨-18000, 0⟩⟩, ⟨-431542800, ⟨-18000, 3600⟩⟩, ⟨-418240800, ⟨-18000, 0⟩⟩,
      ⟨-400093200, ⟨-18000, 3600⟩⟩, ⟨-384372000, ⟨-18000, 0⟩⟩, ⟨-368643600, ⟨-18000, 3600⟩⟩,
      ⟨-352922400, ⟨-18000, 0⟩⟩, ⟨-337194000, ⟨-18000, 3600⟩⟩, ⟨-321472800, ⟨-18000, 0⟩⟩,
      ⟨-305744400, ⟨-18000, 3600⟩⟩, ⟨-289418400, ⟨-18000, 0⟩⟩, ⟨-273690000, ⟨-18000, 3600⟩⟩,
      ⟨-257968800, ⟨-18000, 0⟩⟩, ⟨-242240400, ⟨-18000, 3600⟩⟩, ⟨-226519200, ⟨-18000, 0⟩⟩,
      ⟨-210790800, ⟨-18000, 3600⟩⟩, ⟨-195069600, ⟨-18000, 0⟩⟩, ⟨-179341200, ⟨-18000, 3600⟩⟩,
      ⟨-163620000, ⟨-18000, 0⟩⟩, ⟨-147891600, ⟨-18000, 3600⟩⟩, ⟨-131565600, ⟨-18000, 0⟩⟩,
      ⟨-116442000, ⟨-18000, 3600⟩⟩, ⟨-100116000, ⟨-18000, 0⟩⟩, ⟨-84387600, ⟨-18000, 3600⟩⟩,
      ⟨-68666400, ⟨-18000, 0⟩⟩, ⟨-52938000, ⟨-18000, 3600⟩⟩, ⟨-37216800, ⟨-18000, 0⟩⟩,
      ⟨-21488400, ⟨-18000, 3600⟩⟩, ⟨-5767200, ⟨-18000, 0⟩⟩, ⟨9961200, ⟨-18000, 3600⟩⟩,
      ⟨25682400, ⟨-18000, 0⟩⟩, ⟨41410800, ⟨-18000, 3600⟩⟩, ⟨57736800, ⟨-18000, 0⟩⟩,
      ⟨73465200, ⟨-18000, 3600⟩⟩, ⟨89186400, ⟨-18000, 0⟩⟩, ⟨104914800, ⟨-18000, 3600⟩⟩,
      ⟨120636000, ⟨-18000, 0⟩⟩, ⟨136364400, ⟨-18000, 3600⟩⟩, ⟨152085600, ⟨-18000, 0⟩⟩,
      ⟨167814000, ⟨-18000, 3600⟩⟩, ⟨183535200, ⟨-18000, 0⟩⟩, ⟨199263600, ⟨-18000, 3600⟩⟩,
      ⟨215589600, ⟨-18000, 0⟩⟩, ⟨230713200, ⟨-18000, 3600⟩⟩, ⟨247039200, ⟨-18000, 0⟩⟩,
      ⟨262767600, ⟨-18000, 3600⟩⟩, ⟨278488800, ⟨-18000, 0⟩⟩, ⟨294217200, ⟨-18000, 3600⟩⟩,
      ⟨309938400, ⟨-18000, 0⟩⟩, ⟨325666800, ⟨-18000, 3600⟩⟩, ⟨341388000, ⟨-18000, 0⟩⟩,
      ⟨357116400, ⟨-18000, 3600⟩⟩, ⟨372837600, ⟨-18000, 0⟩⟩, ⟨388566000, ⟨-18000, 3600⟩⟩,
      ⟨404892000, ⟨-18000, 0⟩⟩, ⟨420015600, ⟨-18000, 3600⟩⟩, ⟨436341600, ⟨-18000, 0⟩⟩,
      ⟨452070000, ⟨-18000, 3600⟩⟩, ⟨467791200, ⟨-18000, 0⟩⟩, ⟨483519600, ⟨-18000, 3600⟩⟩,
      ⟨499240800, ⟨-18000, 0⟩⟩, ⟨514969200, ⟨-18000, 3600⟩⟩, ⟨530690400, ⟨-18000, 0⟩⟩,
      ⟨544604400, ⟨-18000, 3600⟩⟩, ⟨562140000, ⟨-18000, 0⟩⟩, ⟨576054000, ⟨-18000, 3600⟩⟩,
      ⟨594194400, ⟨-18000, 0⟩⟩, ⟨607503600, ⟨-18000, 3600⟩⟩, ⟨625644000, ⟨-18000, 0⟩⟩,
      ⟨638953200, ⟨-18000, 3600⟩⟩, ⟨657093600, ⟨-18000, 0⟩⟩, ⟨671007600, ⟨-18000, 3600⟩⟩,
      ⟨688543200, ⟨-18000, 0⟩⟩, ⟨702457200, ⟨-18000, 3600⟩⟩, ⟨719992800, ⟨-18000, 0⟩⟩,
      ⟨733906800, ⟨-18000, 3600⟩⟩, ⟨752047200, ⟨-18000, 0⟩⟩, ⟨765356400, ⟨-18000, 3600⟩⟩,
      ⟨783496800, ⟨-18000, 0⟩⟩, ⟨796806000, ⟨-18000, 3600⟩⟩, ⟨814946400, ⟨-18000, 0⟩⟩,
      ⟨828860400, ⟨-18000, 3600⟩⟩, ⟨846396000, ⟨-18000, 0⟩⟩, ⟨860310000, ⟨-18000, 3600⟩⟩,
      ⟨877845600, ⟨-18000, 0⟩⟩, ⟨891759600, ⟨-18000, 3600⟩⟩, ⟨909295200, ⟨-18000, 0⟩⟩,
      ⟨923209200, ⟨-18000, 3600⟩⟩, ⟨941349600, ⟨-18000, 0⟩⟩, ⟨954658800, ⟨-18000, 3600⟩⟩,
      ⟨972799200, ⟨-18000, 0⟩⟩, ⟨986108400, ⟨-18000, 3600⟩⟩, ⟨1004248800, ⟨-18000, 0⟩⟩,
      ⟨1018162800, ⟨-18000, 3600⟩⟩, ⟨1035698400, ⟨-18000, 0⟩⟩, ⟨1049612400, ⟨-18000, 3600⟩⟩,
      ⟨1067148000, ⟨-18000, 0⟩⟩, ⟨1081062000, ⟨-18000, 3600⟩⟩, ⟨1099202400, ⟨-18000, 0⟩⟩,
      ⟨1112511600, ⟨-18000, 3600⟩⟩, ⟨1130652000, ⟨-18000, 0⟩⟩, ⟨1143961200, ⟨-18000, 3600⟩⟩,
      ⟨1162101600, ⟨-18000, 0⟩⟩, ⟨1173596400, ⟨-18000, 3600⟩⟩, ⟨1194156000, ⟨-18000, 0⟩⟩] ++
    YearlyChange.spans
      [⟨.second, 3, 25200, ⟨-18000, 3600⟩⟩, ⟨.first, 11, 21600, ⟨-18000, 0⟩⟩] 2008 92

/-- The offsets of Sao Paulo. -/
def saoPaulo : OffsetTable where
  first := ⟨-11188, 0⟩
  later :=
    [⟨-1767214412, ⟨-10800, 0⟩⟩, ⟨-1206957600, ⟨-10800, 3600⟩⟩, ⟨-1191362400, ⟨-10800, 0⟩⟩,
      ⟨-1175374800, ⟨-10800, 3600⟩⟩, ⟨-1159826400, ⟨-10800, 0⟩⟩, ⟨-633819600, ⟨-10800, 3600⟩⟩,
      ⟨-622069200, ⟨-10800, 0⟩⟩, ⟨-602283600, ⟨-10800, 3600⟩⟩, ⟨-591832800, ⟨-10800, 0⟩⟩,
      ⟨-570747600, ⟨-10800, 3600⟩⟩, ⟨-560210400, ⟨-10800, 0⟩⟩, ⟨-539125200, ⟨-10800, 3600⟩⟩,
      ⟨-531352800, ⟨-10800, 0⟩⟩, ⟨-195426000, ⟨-10800, 3600⟩⟩, ⟨-184197600, ⟨-10800, 0⟩⟩,
      ⟨-155163600, ⟨-10800, 3600⟩⟩, ⟨-150069600, ⟨-10800, 0⟩⟩, ⟨-128898000, ⟨-10800, 3600⟩⟩,
      ⟨-121125600, ⟨-10800, 0⟩⟩, ⟨-99954000, ⟨-10800, 3600⟩⟩, ⟨-89589600, ⟨-10800, 0⟩⟩,
      ⟨-68418000, ⟨-10800, 3600⟩⟩, ⟨-57967200, ⟨-10800, 0⟩⟩, ⟨499748400, ⟨-10800, 3600⟩⟩,
      ⟨511236000, ⟨-10800, 0⟩⟩, ⟨530593200, ⟨-10800, 3600⟩⟩, ⟨540266400, ⟨-10800, 0⟩⟩,
      ⟨562129200, ⟨-10800, 3600⟩⟩, ⟨571197600, ⟨-10800, 0⟩⟩, ⟨592974000, ⟨-10800, 3600⟩⟩,
      ⟨602042400, ⟨-10800, 0⟩⟩, ⟨624423600, ⟨-10800, 3600⟩⟩, ⟨634701600, ⟨-10800, 0⟩⟩,
      ⟨656478000, ⟨-10800, 3600⟩⟩, ⟨666756000, ⟨-10800, 0⟩⟩, ⟨687927600, ⟨-10800, 3600⟩⟩,
      ⟨697600800, ⟨-10800, 0⟩⟩, ⟨719982000, ⟨-10800, 3600⟩⟩, ⟨728445600, ⟨-10800, 0⟩⟩,
      ⟨750826800, ⟨-10800, 3600⟩⟩, ⟨761709600, ⟨-10800, 0⟩⟩, ⟨782276400, ⟨-10800, 3600⟩⟩,
      ⟨793159200, ⟨-10800, 0⟩⟩, ⟨813726000, ⟨-10800, 3600⟩⟩, ⟨824004000, ⟨-10800, 0⟩⟩,
      ⟨844570800, ⟨-10800, 3600⟩⟩, ⟨856058400, ⟨-10800, 0⟩⟩, ⟨876106800, ⟨-10800, 3600⟩⟩,
      ⟨888717600, ⟨-10800, 0⟩⟩, ⟨908074800, ⟨-10800, 3600⟩⟩, ⟨919562400, ⟨-10800, 0⟩⟩,
      ⟨938919600, ⟨-10800, 3600⟩⟩, ⟨951616800, ⟨-10800, 0⟩⟩, ⟨970974000, ⟨-10800, 3600⟩⟩,
      ⟨982461600, ⟨-10800, 0⟩⟩, ⟨1003028400, ⟨-10800, 3600⟩⟩, ⟨1013911200, ⟨-10800, 0⟩⟩,
      ⟨1036292400, ⟨-10800, 3600⟩⟩, ⟨1045360800, ⟨-10800, 0⟩⟩, ⟨1066532400, ⟨-10800, 3600⟩⟩,
      ⟨1076810400, ⟨-10800, 0⟩⟩, ⟨1099364400, ⟨-10800, 3600⟩⟩, ⟨1108864800, ⟨-10800, 0⟩⟩,
      ⟨1129431600, ⟨-10800, 3600⟩⟩, ⟨1140314400, ⟨-10800, 0⟩⟩, ⟨1162695600, ⟨-10800, 3600⟩⟩,
      ⟨1172368800, ⟨-10800, 0⟩⟩, ⟨1192330800, ⟨-10800, 3600⟩⟩, ⟨1203213600, ⟨-10800, 0⟩⟩,
      ⟨1224385200, ⟨-10800, 3600⟩⟩, ⟨1234663200, ⟨-10800, 0⟩⟩, ⟨1255834800, ⟨-10800, 3600⟩⟩,
      ⟨1266717600, ⟨-10800, 0⟩⟩, ⟨1287284400, ⟨-10800, 3600⟩⟩, ⟨1298167200, ⟨-10800, 0⟩⟩,
      ⟨1318734000, ⟨-10800, 3600⟩⟩, ⟨1330221600, ⟨-10800, 0⟩⟩, ⟨1350788400, ⟨-10800, 3600⟩⟩,
      ⟨1361066400, ⟨-10800, 0⟩⟩, ⟨1382238000, ⟨-10800, 3600⟩⟩, ⟨1392516000, ⟨-10800, 0⟩⟩,
      ⟨1413687600, ⟨-10800, 3600⟩⟩, ⟨1424570400, ⟨-10800, 0⟩⟩, ⟨1445137200, ⟨-10800, 3600⟩⟩,
      ⟨1456020000, ⟨-10800, 0⟩⟩, ⟨1476586800, ⟨-10800, 3600⟩⟩, ⟨1487469600, ⟨-10800, 0⟩⟩,
      ⟨1508036400, ⟨-10800, 3600⟩⟩, ⟨1518919200, ⟨-10800, 0⟩⟩, ⟨1541300400, ⟨-10800, 3600⟩⟩,
      ⟨1550368800, ⟨-10800, 0⟩⟩]

/-- The offsets of Caracas. -/
def caracas : OffsetTable where
  first := ⟨-16064, 0⟩
  later :=
    [⟨-2524505536, ⟨-16060, 0⟩⟩, ⟨-1826739140, ⟨-16200, 0⟩⟩, ⟨-157750200, ⟨-14400, 0⟩⟩,
      ⟨1197183600, ⟨-16200, 0⟩⟩, ⟨1462086000, ⟨-14400, 0⟩⟩]

/-- Eastern standard time, the whole year round. -/
def eastern : OffsetTable where
  first := ⟨-19088, 0⟩
  later :=
    [⟨-2524502512, ⟨-19176, 0⟩⟩, ⟨-1946918424, ⟨-18000, 0⟩⟩]

end Region

end Almanac
