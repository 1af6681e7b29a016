import HydroArchive.Time.ZoneHistory

/-!
# Zone table: the zones of Africa

Each zone with the offset of its first clock and all changes of its clock up to the year 2099.
-/

namespace HydroArchive.ZoneTable

def africa : List (String × ZoneHistory) :=
  [("Africa/Abidjan", ⟨-968, [.once (-1830383032) 0]⟩),
   ("Africa/Algiers", ⟨732, [.once (-2486592732) 561, .once (-1855958961) 0,
     .once (-1689814800) 3600, .once (-1680397200) 0, .once (-1665363600) 3600,
     .once (-1648342800) 0, .once (-1635123600) 3600, .once (-1616893200) 0,
     .once (-1604278800) 3600, .once (-1585443600) 0, .once (-1574038800) 3600,
     .once (-1552266000) 0, .once (-1539997200) 3600, .once (-1531443600) 0,
     .once (-956365200) 3600, .once (-950486400) 0, .once (-942012000) 3600,
     .once (-812502000) 7200, .once (-796262400) 3600, .once (-781052400) 7200,
     .once (-766630800) 3600, .once (-733280400) 0, .once (-439430400) 3600,
     .once (-212029200) 0, .once 41468400 3600, .once 54774000 0, .once 231724800 3600,
     .once 259545600 7200, .once 275274000 3600, .once 309740400 0, .once 325468800 3600,
     .once 341802000 0, .once 357523200 3600]⟩),
   ("Africa/Bissau", ⟨-3740, [.once (-1830380400) (-3600), .once 157770000 0]⟩),
   ("Africa/Cairo", ⟨7509, [.once (-2185409109) 7200, .once (-929844000) 10800,
     .once (-923108400) 7200, .once (-906170400) 10800, .once (-892868400) 7200,
     .once (-875844000) 10800, .once (-857790000) 7200,
     .yearly 1943 1944 [⟨3, .on 31, 79200, 10800⟩, ⟨10, .on 31, 75600, 7200⟩],
     .once (-779853600) 10800, .once (-762663600) 7200, .once (-399088800) 10800,
     .once (-386650800) 7200, .once (-368330400) 10800, .once (-355114800) 7200,
     .yearly 1959 1965 [⟨4, .on 30, 82800, 10800⟩, ⟨9, .on 30, 0, 7200⟩],
     .yearly 1966 1981 [⟨4, .on 30, 82800, 10800⟩, ⟨10, .on 1, 0, 7200⟩], .once 396399600 10800,
     .once 402278400 7200, .once 426812400 10800, .once 433814400 7200,
     .yearly 1984 1988 [⟨4, .on 30, 82800, 10800⟩, ⟨10, .on 1, 0, 7200⟩], .once 610412400 10800,
     .once 623203200 7200, .yearly 1990 1994 [⟨4, .on 30, 82800, 10800⟩, ⟨10, .on 1, 0, 7200⟩],
     .yearly 1995 2005 [⟨4, .onOrAfter 4 23, 79200, 10800⟩, ⟨9, .last 4, 75600, 7200⟩],
     .once 1146175200 10800, .once 1158872400 7200, .once 1177624800 10800,
     .once 1189112400 7200, .once 1209074400 10800, .once 1219957200 7200,
     .once 1240524000 10800, .once 1250802000 7200, .once 1272578400 10800,
     .once 1281474000 7200, .once 1284069600 10800, .once 1285880400 7200,
     .once 1400191200 10800, .once 1403816400 7200, .once 1406844000 10800,
     .once 1411678800 7200,
     .yearly 2023 2099 [⟨4, .onOrAfter 4 23, 79200, 10800⟩, ⟨10, .last 4, 75600, 7200⟩]]⟩),
   ("Africa/Casablanca", ⟨-1820, [.once (-1773012580) 0, .once (-956361600) 3600,
     .once (-950490000) 0, .once (-942019200) 3600, .once (-761187600) 0,
     .once (-617241600) 3600, .once (-605149200) 0, .once (-81432000) 3600, .once (-71110800) 0,
     .once 141264000 3600, .once 147222000 0, .once 199756800 3600, .once 207702000 0,
     .once 231292800 3600, .once 244249200 0, .once 265507200 3600, .once 271033200 0,
     .once 448243200 3600, .once 504918000 0, .once 1212278400 3600, .once 1220223600 0,
     .once 1243814400 3600, .once 1250809200 0, .once 1272758400 3600, .once 1281222000 0,
     .once 1301788800 3600, .once 1312066800 0, .once 1335664800 3600, .once 1342749600 0,
     .once 1345428000 3600, .once 1348970400 0, .once 1367114400 3600, .once 1373162400 0,
     .once 1376100000 3600, .once 1382839200 0, .once 1396144800 3600, .once 1403920800 0,
     .once 1406944800 3600, .once 1414288800 0, .once 1427594400 3600, .once 1434247200 0,
     .once 1437271200 3600, .once 1445738400 0, .once 1459044000 3600, .once 1465092000 0,
     .once 1468116000 3600, .once 1477792800 0, .once 1490493600 3600, .once 1495332000 0,
     .once 1498960800 3600, .once 1509242400 0, .once 1521943200 3600, .once 1526176800 0,
     .once 1529200800 3600, .once 1557021600 0, .once 1560045600 3600, .once 1587261600 0,
     .once 1590890400 3600, .once 1618106400 0, .once 1621130400 3600, .once 1648346400 0,
     .once 1651975200 3600, .once 1679191200 0, .once 1682215200 3600, .once 1710036000 0,
     .once 1713060000 3600, .once 1740276000 0, .once 1743904800 3600, .once 1771120800 0,
     .once 1774144800 3600, .once 1801965600 0, .once 1804989600 3600, .once 1832205600 0,
     .once 1835834400 3600, .once 1863050400 0, .once 1866074400 3600, .once 1893290400 0,
     .once 1896919200 3600, .once 1924135200 0, .once 1927159200 3600, .once 1954980000 0,
     .once 1958004000 3600, .once 1985220000 0, .once 1988848800 3600, .once 2016064800 0,
     .once 2019088800 3600, .once 2046304800 0, .once 2049933600 3600, .once 2077149600 0,
     .once 2080778400 3600, .once 2107994400 0, .once 2111018400 3600, .once 2138234400 0,
     .once 2141863200 3600, .once 2169079200 0, .once 2172103200 3600, .once 2199924000 0,
     .once 2202948000 3600, .once 2230164000 0, .once 2233792800 3600, .once 2261008800 0,
     .once 2264032800 3600, .once 2291248800 0, .once 2294877600 3600, .once 2322093600 0,
     .once 2325722400 3600, .once 2352938400 0, .once 2355962400 3600, .once 2383178400 0,
     .once 2386807200 3600, .once 2414023200 0, .once 2417047200 3600, .once 2444868000 0,
     .once 2447892000 3600, .once 2475108000 0, .once 2478736800 3600, .once 2505952800 0,
     .once 2508976800 3600, .once 2536192800 0, .once 2539821600 3600, .once 2567037600 0,
     .once 2570666400 3600, .once 2597882400 0, .once 2600906400 3600, .once 2628122400 0,
     .once 2631751200 3600, .once 2658967200 0, .once 2661991200 3600, .once 2689812000 0,
     .once 2692836000 3600, .once 2720052000 0, .once 2723680800 3600, .once 2750896800 0,
     .once 2753920800 3600, .once 2781136800 0, .once 2784765600 3600, .once 2811981600 0,
     .once 2815610400 3600, .once 2842826400 0, .once 2845850400 3600, .once 2873066400 0,
     .once 2876695200 3600, .once 2903911200 0, .once 2906935200 3600, .once 2934756000 0,
     .once 2937780000 3600, .once 2964996000 0, .once 2968624800 3600, .once 2995840800 0,
     .once 2998864800 3600, .once 3026080800 0, .once 3029709600 3600, .once 3056925600 0,
     .once 3060554400 3600, .once 3087770400 0, .once 3090794400 3600, .once 3118010400 0,
     .once 3121639200 3600, .once 3148855200 0, .once 3151879200 3600, .once 3179700000 0,
     .once 3182724000 3600, .once 3209940000 0, .once 3213568800 3600, .once 3240784800 0,
     .once 3243808800 3600, .once 3271024800 0, .once 3274653600 3600, .once 3301869600 0,
     .once 3305498400 3600, .once 3332714400 0, .once 3335738400 3600, .once 3362954400 0,
     .once 3366583200 3600, .once 3393799200 0, .once 3396823200 3600, .once 3424644000 0,
     .once 3427668000 3600, .once 3454884000 0, .once 3458512800 3600, .once 3485728800 0,
     .once 3488752800 3600, .once 3515968800 0, .once 3519597600 3600, .once 3546813600 0,
     .once 3549837600 3600, .once 3577658400 0, .once 3580682400 3600, .once 3607898400 0,
     .once 3611527200 3600, .once 3638743200 0, .once 3641767200 3600, .once 3669588000 0,
     .once 3672612000 3600, .once 3699828000 0, .once 3703456800 3600]⟩),
   ("Africa/Ceuta", ⟨-1276, [.once (-2177452800) 0, .once (-1630112400) 3600,
     .once (-1616810400) 0, .once (-1442451600) 3600, .once (-1427673600) 0,
     .once (-1379293200) 3600, .once (-1364774400) 0, .once (-1348448400) 3600,
     .once (-1333324800) 0, .once (-1316390400) 3600, .once (-1301270400) 0,
     .once (-81432000) 3600, .once (-71110800) 0, .once 141264000 3600, .once 147222000 0,
     .once 199756800 3600, .once 207702000 0, .once 231292800 3600, .once 244249200 0,
     .once 265507200 3600, .once 271033200 0, .once 448243200 3600,
     .yearly 1986 1995 [⟨3, .last 0, 3600, 7200⟩, ⟨9, .last 0, 3600, 3600⟩],
     .yearly 1996 2099 [⟨3, .last 0, 3600, 7200⟩, ⟨10, .last 0, 3600, 3600⟩]]⟩),
   ("Africa/El_Aaiun", ⟨-3168, [.once (-1136070432) (-3600), .once 198291600 0,
     .once 199756800 3600, .once 207702000 0, .once 231292800 3600, .once 244249200 0,
     .once 265507200 3600, .once 271033200 0, .once 1212278400 3600, .once 1220223600 0,
     .once 1243814400 3600, .once 1250809200 0, .once 1272758400 3600, .once 1281222000 0,
     .once 1301788800 3600, .once 1312066800 0, .once 1335664800 3600, .once 1342749600 0,
     .once 1345428000 3600, .once 1348970400 0, .once 1367114400 3600, .once 1373162400 0,
     .once 1376100000 3600, .once 1382839200 0, .once 1396144800 3600, .once 1403920800 0,
     .once 1406944800 3600, .once 1414288800 0, .once 1427594400 3600, .once 1434247200 0,
     .once 1437271200 3600, .once 1445738400 0, .once 1459044000 3600, .once 1465092000 0,
     .once 1468116000 3600, .once 1477792800 0, .once 1490493600 3600, .once 1495332000 0,
     .once 1498960800 3600, .once 1509242400 0, .once 1521943200 3600, .once 1526176800 0,
     .once 1529200800 3600, .once 1557021600 0, .once 1560045600 3600, .once 1587261600 0,
     .once 1590890400 3600, .once 1618106400 0, .once 1621130400 3600, .once 1648346400 0,
     .once 1651975200 3600, .once 1679191200 0, .once 1682215200 3600, .once 1710036000 0,
     .once 1713060000 3600, .once 1740276000 0, .once 1743904800 3600, .once 1771120800 0,
     .once 1774144800 3600, .once 1801965600 0, .once 1804989600 3600, .once 1832205600 0,
     .once 1835834400 3600, .once 1863050400 0, .once 1866074400 3600, .once 1893290400 0,
     .once 1896919200 3600, .once 1924135200 0, .once 1927159200 3600, .once 1954980000 0,
     .once 1958004000 3600, .once 1985220000 0, .once 1988848800 3600, .once 2016064800 0,
     .once 2019088800 3600, .once 2046304800 0, .once 2049933600 3600, .once 2077149600 0,
     .once 2080778400 3600, .once 2107994400 0, .once 2111018400 3600, .once 2138234400 0,
     .once 2141863200 3600, .once 2169079200 0, .once 2172103200 3600, .once 2199924000 0,
     .once 2202948000 3600, .once 2230164000 0, .once 2233792800 3600, .once 2261008800 0,
     .once 2264032800 3600, .once 2291248800 0, .once 2294877600 3600, .once 2322093600 0,
     .once 2325722400 3600, .once 2352938400 0, .once 2355962400 3600, .once 2383178400 0,
     .once 2386807200 3600, .once 2414023200 0, .once 2417047200 3600, .once 2444868000 0,
     .once 2447892000 3600, .once 2475108000 0, .once 2478736800 3600, .once 2505952800 0,
     .once 2508976800 3600, .once 2536192800 0, .once 2539821600 3600, .once 2567037600 0,
     .once 2570666400 3600, .once 2597882400 0, .once 2600906400 3600, .once 2628122400 0,
     .once 2631751200 3600, .once 2658967200 0, .once 2661991200 3600, .once 2689812000 0,
     .once 2692836000 3600, .once 2720052000 0, .once 2723680800 3600, .once 2750896800 0,
     .once 2753920800 3600, .once 2781136800 0, .once 2784765600 3600, .once 2811981600 0,
     .once 2815610400 3600, .once 2842826400 0, .once 2845850400 3600, .once 2873066400 0,
     .once 2876695200 3600, .once 2903911200 0, .once 2906935200 3600, .once 2934756000 0,
     .once 2937780000 3600, .once 2964996000 0, .once 2968624800 3600, .once 2995840800 0,
     .once 2998864800 3600, .once 3026080800 0, .once 3029709600 3600, .once 3056925600 0,
     .once 3060554400 3600, .once 3087770400 0, .once 3090794400 3600, .once 3118010400 0,
     .once 3121639200 3600, .once 3148855200 0, .once 3151879200 3600, .once 3179700000 0,
     .once 3182724000 3600, .once 3209940000 0, .once 3213568800 3600, .once 3240784800 0,
     .once 3243808800 3600, .once 3271024800 0, .once 3274653600 3600, .once 3301869600 0,
     .once 3305498400 3600, .once 3332714400 0, .once 3335738400 3600, .once 3362954400 0,
     .once 3366583200 3600, .once 3393799200 0, .once 3396823200 3600, .once 3424644000 0,
     .once 3427668000 3600, .once 3454884000 0, .once 3458512800 3600, .once 3485728800 0,
     .once 3488752800 3600, .once 3515968800 0, .once 3519597600 3600, .once 3546813600 0,
     .once 3549837600 3600, .once 3577658400 0, .once 3580682400 3600, .once 3607898400 0,
     .once 3611527200 3600, .once 3638743200 0, .once 3641767200 3600, .once 3669588000 0,
     .once 3672612000 3600, .once 3699828000 0, .once 3703456800 3600]⟩),
   ("Africa/Johannesburg", ⟨6720, [.once (-2458173120) 5400, .once (-2109288600) 7200,
     .once (-860976000) 10800, .once (-845254800) 7200, .once (-829526400) 10800,
     .once (-813805200) 7200]⟩),
   ("Africa/Juba", ⟨7588, [.once (-1230775588) 7200,
     .yearly 1970 1971 [⟨4, .last 4, 79200, 10800⟩, ⟨10, .on 14, 75600, 7200⟩],
     .yearly 1972 1985 [⟨4, .onOrAfter 6 23, 79200, 10800⟩, ⟨10, .on 14, 75600, 7200⟩],
     .once 947930400 10800, .once 1612126800 7200]⟩),
   ("Africa/Khartoum", ⟨7808, [.once (-1230775808) 7200,
     .yearly 1970 1971 [⟨4, .last 4, 79200, 10800⟩, ⟨10, .on 14, 75600, 7200⟩],
     .yearly 1972 1985 [⟨4, .onOrAfter 6 23, 79200, 10800⟩, ⟨10, .on 14, 75600, 7200⟩],
     .once 947930400 10800, .once 1509483600 7200]⟩),
   ("Africa/Lagos", ⟨815, [.once (-2035584815) 0, .once (-1940889600) 815,
     .once (-1767226415) 1800, .once (-1588465800) 3600]⟩),
   ("Africa/Maputo", ⟨7818, [.once (-1924999818) 7200]⟩),
   ("Africa/Monrovia", ⟨-2588, [.once (-1604359012) (-2670), .once 63593070 0]⟩),
   ("Africa/Nairobi", ⟨8836, [.once (-1946168836) 9000, .once (-1309746600) 10800,
     .once (-1261969200) 9000, .once (-1041388200) 9900, .once (-865305900) 10800]⟩),
   ("Africa/Ndjamena", ⟨3612, [.once (-1830387612) 3600, .once 308703600 7200,
     .once 321314400 3600]⟩),
   ("Africa/Sao_Tome", ⟨1616, [.once (-2713912016) (-2205), .once (-1830384000) 0,
     .once 1514768400 3600, .once 1546304400 0]⟩),
   ("Africa/Tripoli", ⟨3164, [.once (-1577926364) 3600, .once (-574902000) 7200,
     .once (-568087200) 3600, .once (-512175600) 7200, .once (-504928800) 3600,
     .once (-449888400) 7200, .once (-441856800) 3600, .once (-347158800) 7200,
     .once 378684000 3600,
     .yearly 1982 1984 [⟨3, .on 31, 82800, 7200⟩, ⟨9, .on 30, 79200, 3600⟩],
     .once 481590000 7200, .once 496965600 3600, .once 512953200 7200, .once 528674400 3600,
     .yearly 1987 1989 [⟨3, .on 31, 82800, 7200⟩, ⟨9, .on 30, 79200, 3600⟩],
     .once 641775600 7200, .once 844034400 3600, .once 860108400 7200, .once 1352505600 3600,
     .once 1364515200 7200]⟩),
   ("Africa/Tunis", ⟨2444, [.once (-2797202444) 561, .once (-1855958961) 3600,
     .once (-969242400) 7200, .once (-950493600) 3600, .once (-941940000) 7200,
     .once (-891136800) 3600, .once (-877827600) 7200, .once (-857257200) 3600,
     .once (-844556400) 7200, .once (-842918400) 3600, .once (-842223600) 7200,
     .once (-828230400) 3600, .once (-812502000) 7200, .once (-796269600) 3600,
     .once (-781052400) 7200, .once (-766634400) 3600, .once 231202800 7200,
     .once 243903600 3600, .once 262825200 7200, .once 276044400 3600, .once 581122800 7200,
     .once 591145200 3600, .once 606870000 7200, .once 622594800 3600, .once 641516400 7200,
     .once 654649200 3600, .once 1114902000 7200, .once 1128038400 3600,
     .yearly 2006 2008 [⟨3, .last 0, 3600, 7200⟩, ⟨10, .last 0, 3600, 3600⟩]]⟩),
   ("Africa/Windhoek", ⟨4104, [.once (-2458170504) 5400, .once (-2109288600) 7200,
     .once (-860976000) 10800, .once (-845254800) 7200, .once 764200800 3600,
     .once 778640400 7200,
     .yearly 1995 2017 [⟨4, .onOrAfter 0 1, 0, 3600⟩, ⟨9, .onOrAfter 0 1, 3600, 7200⟩]]⟩)]

end HydroArchive.ZoneTable
