import Almanac.Zone.Yearly

/-!
# Offsets in Africa and Antarctica

Spans as the time-zone database has them: the first second of each, its standard offset, and its
daylight-saving part.
-/

namespace Almanac

namespace Region

/-- The offsets of Casablanca. -/
def casablanca : OffsetTable where
  first := ⟨-1820, 0⟩
  later :=
    [⟨-1773012580, ⟨0, 0⟩⟩, ⟨-956361600, ⟨0, 3600⟩⟩, ⟨-950490000, ⟨0, 0⟩⟩, ⟨-942019200, ⟨0, 3600⟩⟩,
      ⟨-761187600, ⟨0, 0⟩⟩, ⟨-617241600, ⟨0, 3600⟩⟩, ⟨-605149200, ⟨0, 0⟩⟩, ⟨-81432000, ⟨0, 3600⟩⟩,
      ⟨-71110800, ⟨0, 0⟩⟩, ⟨141264000, ⟨0, 3600⟩⟩, ⟨147222000, ⟨0, 0⟩⟩, ⟨199756800, ⟨0, 3600⟩⟩,
      ⟨207702000, ⟨0, 0⟩⟩, ⟨231292800, ⟨0, 3600⟩⟩, ⟨244249200, ⟨0, 0⟩⟩, ⟨265507200, ⟨0, 3600⟩⟩,
      ⟨271033200, ⟨0, 0⟩⟩, ⟨448243200, ⟨3600, 0⟩⟩, ⟨504918000, ⟨0, 0⟩⟩, ⟨1212278400, ⟨0, 3600⟩⟩,
      ⟨1220223600, ⟨0, 0⟩⟩, ⟨1243814400, ⟨0, 3600⟩⟩, ⟨1250809200, ⟨0, 0⟩⟩, ⟨1272758400, ⟨0, 3600⟩⟩,
      ⟨1281222000, ⟨0, 0⟩⟩, ⟨1301788800, ⟨0, 3600⟩⟩, ⟨1312066800, ⟨0, 0⟩⟩, ⟨1335664800, ⟨0, 3600⟩⟩,
      ⟨1342749600, ⟨0, 0⟩⟩, ⟨1345428000, ⟨0, 3600⟩⟩, ⟨1348970400, ⟨0, 0⟩⟩, ⟨1367114400, ⟨0, 3600⟩⟩,
      ⟨1373162400, ⟨0, 0⟩⟩, ⟨1376100000, ⟨0, 3600⟩⟩, ⟨1382839200, ⟨0, 0⟩⟩, ⟨1396144800, ⟨0, 3600⟩⟩,
      ⟨1403920800, ⟨0, 0⟩⟩, ⟨1406944800, ⟨0, 3600⟩⟩, ⟨1414288800, ⟨0, 0⟩⟩, ⟨1427594400, ⟨0, 3600⟩⟩,
      ⟨1434247200, ⟨0, 0⟩⟩, ⟨1437271200, ⟨0, 3600⟩⟩, ⟨1445738400, ⟨0, 0⟩⟩, ⟨1459044000, ⟨0, 3600⟩⟩,
      ⟨1465092000, ⟨0, 0⟩⟩, ⟨1468116000, ⟨0, 3600⟩⟩, ⟨1477792800, ⟨0, 0⟩⟩, ⟨1490493600, ⟨0, 3600⟩⟩,
      ⟨1495332000, ⟨0, 0⟩⟩, ⟨1498960800, ⟨0, 3600⟩⟩, ⟨1509242400, ⟨0, 0⟩⟩, ⟨1521943200, ⟨0, 3600⟩⟩,
      ⟨1526176800, ⟨0, 0⟩⟩, ⟨1529200800, ⟨0, 3600⟩⟩, ⟨1540692000, ⟨3600, 0⟩⟩,
      ⟨1557021600, ⟨3600, -3600⟩⟩, ⟨1560045600, ⟨3600, 0⟩⟩, ⟨1587261600, ⟨3600, -3600⟩⟩,
      ⟨1590890400, ⟨3600, 0⟩⟩, ⟨1618106400, ⟨3600, -3600⟩⟩, ⟨1621130400, ⟨3600, 0⟩⟩,
      ⟨1648346400, ⟨3600, -3600⟩⟩, ⟨1651975200, ⟨3600, 0⟩⟩, ⟨1679191200, ⟨3600, -3600⟩⟩,
      ⟨1682215200, ⟨3600, 0⟩⟩, ⟨1710036000, ⟨3600, -3600⟩⟩, ⟨1713060000, ⟨3600, 0⟩⟩,
      ⟨1740276000, ⟨3600, -3600⟩⟩, ⟨1743904800, ⟨3600, 0⟩⟩, ⟨1771120800, ⟨3600, -3600⟩⟩,
      ⟨1774144800, ⟨3600, 0⟩⟩, ⟨1801965600, ⟨3600, -3600⟩⟩, ⟨1804989600, ⟨3600, 0⟩⟩,
      ⟨1832205600, ⟨3600, -3600⟩⟩, ⟨1835834400, ⟨3600, 0⟩⟩, ⟨1863050400, ⟨3600, -3600⟩⟩,
      ⟨1866074400, ⟨3600, 0⟩⟩, ⟨1893290400, ⟨3600, -3600⟩⟩, ⟨1896919200, ⟨3600, 0⟩⟩,
      ⟨1924135200, ⟨3600, -3600⟩⟩, ⟨1927159200, ⟨3600, 0⟩⟩, ⟨1954980000, ⟨3600, -3600⟩⟩,
      ⟨1958004000, ⟨3600, 0⟩⟩, ⟨1985220000, ⟨3600, -3600⟩⟩, ⟨1988848800, ⟨3600, 0⟩⟩,
      ⟨2016064800, ⟨3600, -3600⟩⟩, ⟨2019088800, ⟨3600, 0⟩⟩, ⟨2046304800, ⟨3600, -3600⟩⟩,
      ⟨2049933600, ⟨3600, 0⟩⟩, ⟨2077149600, ⟨3600, -3600⟩⟩, ⟨2080778400, ⟨3600, 0⟩⟩,
      ⟨2107994400, ⟨3600, -3600⟩⟩, ⟨2111018400, ⟨3600, 0⟩⟩, ⟨2138234400, ⟨3600, -3600⟩⟩,
      ⟨2141863200, ⟨3600, 0⟩⟩, ⟨2169079200, ⟨3600, -3600⟩⟩, ⟨2172103200, ⟨3600, 0⟩⟩,
      ⟨2199924000, ⟨3600, -3600⟩⟩, ⟨2202948000, ⟨3600, 0⟩⟩, ⟨2230164000, ⟨3600, -3600⟩⟩,
      ⟨2233792800, ⟨3600, 0⟩⟩, ⟨2261008800, ⟨3600, -3600⟩⟩, ⟨2264032800, ⟨3600, 0⟩⟩,
      ⟨2291248800, ⟨3600, -3600⟩⟩, ⟨2294877600, ⟨3600, 0⟩⟩, ⟨2322093600, ⟨3600, -3600⟩⟩,
      ⟨2325722400, ⟨3600, 0⟩⟩, ⟨2352938400, ⟨3600, -3600⟩⟩, ⟨2355962400, ⟨3600, 0⟩⟩,
      ⟨2383178400, ⟨3600, -3600⟩⟩, ⟨2386807200, ⟨3600, 0⟩⟩, ⟨2414023200, ⟨3600, -3600⟩⟩,
      ⟨2417047200, ⟨3600, 0⟩⟩, ⟨2444868000, ⟨3600, -3600⟩⟩, ⟨2447892000, ⟨3600, 0⟩⟩,
      ⟨2475108000, ⟨3600, -3600⟩⟩, ⟨2478736800, ⟨3600, 0⟩⟩, ⟨2505952800, ⟨3600, -3600⟩⟩,
      ⟨2508976800, ⟨3600, 0⟩⟩, ⟨2536192800, ⟨3600, -3600⟩⟩, ⟨2539821600, ⟨3600, 0⟩⟩,
      ⟨2567037600, ⟨3600, -3600⟩⟩, ⟨2570666400, ⟨3600, 0⟩⟩, ⟨2597882400, ⟨3600, -3600⟩⟩,
      ⟨2600906400, ⟨3600, 0⟩⟩, ⟨2628122400, ⟨3600, -3600⟩⟩, ⟨2631751200, ⟨3600, 0⟩⟩,
      ⟨2658967200, ⟨3600, -3600⟩⟩, ⟨2661991200, ⟨3600, 0⟩⟩, ⟨2689812000, ⟨3600, -3600⟩⟩,
      ⟨2692836000, ⟨3600, 0⟩⟩, ⟨2720052000, ⟨3600, -3600⟩⟩, ⟨2723680800, ⟨3600, 0⟩⟩,
      ⟨2750896800, ⟨3600, -3600⟩⟩, ⟨2753920800, ⟨3600, 0⟩⟩, ⟨2781136800, ⟨3600, -3600⟩⟩,
      ⟨2784765600, ⟨3600, 0⟩⟩, ⟨2811981600, ⟨3600, -3600⟩⟩, ⟨2815610400, ⟨3600, 0⟩⟩,
      ⟨2842826400, ⟨3600, -3600⟩⟩, ⟨2845850400, ⟨3600, 0⟩⟩, ⟨2873066400, ⟨3600, -3600⟩⟩,
      ⟨2876695200, ⟨3600, 0⟩⟩, ⟨2903911200, ⟨3600, -3600⟩⟩, ⟨2906935200, ⟨3600, 0⟩⟩,
      ⟨2934756000, ⟨3600, -3600⟩⟩, ⟨2937780000, ⟨3600, 0⟩⟩, ⟨2964996000, ⟨3600, -3600⟩⟩,
      ⟨2968624800, ⟨3600, 0⟩⟩, ⟨2995840800, ⟨3600, -3600⟩⟩, ⟨2998864800, ⟨3600, 0⟩⟩,
      ⟨3026080800, ⟨3600, -3600⟩⟩, ⟨3029709600, ⟨3600, 0⟩⟩, ⟨3056925600, ⟨3600, -3600⟩⟩,
      ⟨3060554400, ⟨3600, 0⟩⟩, ⟨3087770400, ⟨3600, -3600⟩⟩, ⟨3090794400, ⟨3600, 0⟩⟩,
      ⟨3118010400, ⟨3600, -3600⟩⟩, ⟨3121639200, ⟨3600, 0⟩⟩, ⟨3148855200, ⟨3600, -3600⟩⟩,
      ⟨3151879200, ⟨3600, 0⟩⟩, ⟨3179700000, ⟨3600, -3600⟩⟩, ⟨3182724000, ⟨3600, 0⟩⟩,
      ⟨3209940000, ⟨3600, -3600⟩⟩, ⟨3213568800, ⟨3600, 0⟩⟩, ⟨3240784800, ⟨3600, -3600⟩⟩,
      ⟨3243808800, ⟨3600, 0⟩⟩, ⟨3271024800, ⟨3600, -3600⟩⟩, ⟨3274653600, ⟨3600, 0⟩⟩,
      ⟨3301869600, ⟨3600, -3600⟩⟩, ⟨3305498400, ⟨3600, 0⟩⟩, ⟨3332714400, ⟨3600, -3600⟩⟩,
      ⟨3335738400, ⟨3600, 0⟩⟩, ⟨3362954400, ⟨3600, -3600⟩⟩, ⟨3366583200, ⟨3600, 0⟩⟩,
      ⟨3393799200, ⟨3600, -3600⟩⟩, ⟨3396823200, ⟨3600, 0⟩⟩, ⟨3424644000, ⟨3600, -3600⟩⟩,
      ⟨3427668000, ⟨3600, 0⟩⟩, ⟨3454884000, ⟨3600, -3600⟩⟩, ⟨3458512800, ⟨3600, 0⟩⟩,
      ⟨3485728800, ⟨3600, -3600⟩⟩, ⟨3488752800, ⟨3600, 0⟩⟩, ⟨3515968800, ⟨3600, -3600⟩⟩,
      ⟨3519597600, ⟨3600, 0⟩⟩, ⟨3546813600, ⟨3600, -3600⟩⟩, ⟨3549837600, ⟨3600, 0⟩⟩,
      ⟨3577658400, ⟨3600, -3600⟩⟩, ⟨3580682400, ⟨3600, 0⟩⟩, ⟨3607898400, ⟨3600, -3600⟩⟩,
      ⟨3611527200, ⟨3600, 0⟩⟩, ⟨3638743200, ⟨3600, -3600⟩⟩, ⟨3641767200, ⟨3600, 0⟩⟩,
      ⟨3669588000, ⟨3600, -3600⟩⟩, ⟨3672612000, ⟨3600, 0⟩⟩, ⟨3699828000, ⟨3600, -3600⟩⟩,
      ⟨3703456800, ⟨3600, 0⟩⟩]

/-- The offsets of Monrovia. -/
def monrovia : OffsetTable where
  first := ⟨-2588, 0⟩
  later :=
    [⟨-1604359012, ⟨-2670, 0⟩⟩, ⟨63593070, ⟨0, 0⟩⟩]

/-- The offsets of Troll. -/
def troll : OffsetTable where
  first := ⟨0, 0⟩
  later :=
    [⟨1111885200, ⟨0, 7200⟩⟩, ⟨1130634000, ⟨0, 0⟩⟩, ⟨1143334800, ⟨0, 7200⟩⟩, ⟨1162083600, ⟨0, 0⟩⟩,
      ⟨1174784400, ⟨0, 7200⟩⟩, ⟨1193533200, ⟨0, 0⟩⟩] ++
    YearlyChange.spans
      [⟨.last, 3, 3600, ⟨0, 7200⟩⟩, ⟨.last, 10, 3600, ⟨0, 0⟩⟩] 2008 92

end Region

end Almanac
