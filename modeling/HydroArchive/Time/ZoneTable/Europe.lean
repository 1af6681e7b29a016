import HydroArchive.Time.ZoneHistory

/-!
# Zone table: the zones of Europe

Each zone with the offset of its first clock and all changes of its clock up to the year 2099.
-/

namespace HydroArchive.ZoneTable

def europe : List (String × ZoneHistory) :=
  [("Europe/Andorra", ⟨364, [.once (-2177453164) 0, .once (-733881600) 3600,
     .yearly 1985 1995 [⟨3, .last 0, 3600, 7200⟩, ⟨9, .last 0, 3600, 3600⟩],
     .yearly 1996 2099 [⟨3, .last 0, 3600, 7200⟩, ⟨10, .last 0, 3600, 3600⟩]]⟩),
   ("Europe/Astrakhan", ⟨11532, [.once (-1441249932) 10800, .once (-1247540400) 14400,
     .yearly 1981 1983 [⟨3, .on 31, 72000, 18000⟩, ⟨9, .on 30, 68400, 14400⟩],
     .once 449611200 18000, .once 465343200 14400,
     .yearly 1985 1988 [⟨3, .last 6, 79200, 18000⟩, ⟨9, .last 6, 79200, 14400⟩],
     .once 622594800 10800, .once 638319600 14400, .once 654649200 10800, .once 670374000 14400,
     .once 717548400 10800,
     .yearly 1993 1995 [⟨3, .last 6, 82800, 14400⟩, ⟨9, .onOrAfter 6 22, 82800, 10800⟩],
     .yearly 1996 2010 [⟨3, .onOrAfter 6 24, 82800, 14400⟩, ⟨10, .onOrAfter 6 24, 82800, 10800⟩],
     .once 1301180400 14400, .once 1414274400 10800, .once 1459033200 14400]⟩),
   ("Europe/Athens", ⟨5692, [.once (-1686101632) 7200, .once (-1182996000) 10800,
     .once (-1178161200) 7200, .once (-906861600) 10800, .once (-904878000) 7200,
     .once (-857257200) 3600, .once (-844477200) 7200, .once (-828237600) 3600,
     .once (-812422800) 7200, .once (-552362400) 10800, .once (-541652400) 7200,
     .once 166485600 10800, .once 186184800 7200, .once 198028800 10800, .once 213753600 7200,
     .once 228873600 10800, .once 244080000 7200, .once 260323200 10800, .once 275446800 7200,
     .once 291798000 10800, .once 307407600 7200, .once 323388000 10800, .once 338936400 7200,
     .yearly 1981 1995 [⟨3, .last 0, 3600, 10800⟩, ⟨9, .last 0, 3600, 7200⟩],
     .yearly 1996 2099 [⟨3, .last 0, 3600, 10800⟩, ⟨10, .last 0, 3600, 7200⟩]]⟩),
   ("Europe/Belgrade", ⟨4920, [.once (-2713915320) 3600, .once (-905824800) 7200,
     .once (-857257200) 3600, .once (-844556400) 7200, .once (-828226800) 3600,
     .once (-812502000) 7200, .once (-796777200) 3600, .once (-777942000) 7200,
     .once (-766623600) 3600,
     .yearly 1983 1995 [⟨3, .last 0, 3600, 7200⟩, ⟨9, .last 0, 3600, 3600⟩],
     .yearly 1996 2099 [⟨3, .last 0, 3600, 7200⟩, ⟨10, .last 0, 3600, 3600⟩]]⟩),
   ("Europe/Berlin", ⟨3208, [.once (-2422054408) 3600, .once (-1693706400) 7200,
     .once (-1680483600) 3600,
     .yearly 1917 1918 [⟨4, .onOrAfter 1 15, 3600, 7200⟩, ⟨9, .onOrAfter 1 15, 3600, 3600⟩],
     .once (-938905200) 7200, .once (-857257200) 3600, .once (-844556400) 7200,
     .once (-828226800) 3600, .once (-812502000) 7200, .once (-796777200) 3600,
     .once (-781052400) 7200, .once (-776563200) 10800, .once (-765936000) 7200,
     .once (-761180400) 3600, .once (-748479600) 7200, .once (-733273200) 3600,
     .once (-717631200) 7200, .once (-714610800) 10800, .once (-710380800) 7200,
     .once (-701910000) 3600, .once (-684975600) 7200, .once (-670460400) 3600,
     .once (-654130800) 7200, .once (-639010800) 3600, .once 323830800 7200,
     .once 338950800 3600,
     .yearly 1981 1995 [⟨3, .last 0, 3600, 7200⟩, ⟨9, .last 0, 3600, 3600⟩],
     .yearly 1996 2099 [⟨3, .last 0, 3600, 7200⟩, ⟨10, .last 0, 3600, 3600⟩]]⟩),
   ("Europe/Brussels", ⟨1050, [.once (-2450995200) 0, .once (-1740355200) 3600,
     .once (-1693702800) 7200, .once (-1680483600) 3600,
     .yearly 1917 1918 [⟨4, .onOrAfter 1 15, 3600, 7200⟩, ⟨9, .onOrAfter 1 15, 3600, 3600⟩],
     .once (-1613826000) 0, .once (-1604278800) 3600, .once (-1585530000) 0,
     .once (-1574038800) 3600, .once (-1552266000) 0, .once (-1539997200) 3600,
     .once (-1520557200) 0, .once (-1507510800) 3600, .once (-1490576400) 0,
     .once (-1473642000) 3600, .once (-1459126800) 0, .once (-1444006800) 3600,
     .once (-1427677200) 0, .once (-1411952400) 3600, .once (-1396227600) 0,
     .once (-1379293200) 3600, .once (-1364778000) 0, .once (-1348448400) 3600,
     .once (-1333328400) 0, .once (-1316394000) 3600, .once (-1301263200) 0,
     .once (-1284328800) 3600, .once (-1269813600) 0,
     .yearly 1930 1931 [⟨4, .onOrAfter 0 13, 7200, 3600⟩, ⟨10, .onOrAfter 0 1, 7200, 0⟩],
     .once (-1191189600) 3600, .once (-1175464800) 0, .once (-1160344800) 3600,
     .once (-1143410400) 0, .once (-1127685600) 3600, .once (-1111960800) 0,
     .once (-1096840800) 3600, .once (-1080511200) 0, .once (-1063576800) 3600,
     .once (-1049061600) 0, .once (-1033336800) 3600, .once (-1017612000) 0,
     .once (-1002492000) 3600, .once (-986162400) 0, .once (-969228000) 3600,
     .once (-950479200) 0, .once (-942012000) 3600, .once (-934668000) 7200,
     .once (-857257200) 3600, .once (-844556400) 7200, .once (-828226800) 3600,
     .yearly 1944 1945 [⟨4, .onOrAfter 1 1, 3600, 7200⟩, ⟨9, .onOrAfter 0 15, 3600, 3600⟩],
     .once (-745455600) 7200, .once (-733273200) 3600,
     .yearly 1977 1980 [⟨4, .onOrAfter 0 1, 3600, 7200⟩, ⟨9, .last 6, 90000, 3600⟩],
     .yearly 1981 1995 [⟨3, .last 0, 3600, 7200⟩, ⟨9, .last 0, 3600, 3600⟩],
     .yearly 1996 2099 [⟨3, .last 0, 3600, 7200⟩, ⟨10, .last 0, 3600, 3600⟩]]⟩),
   ("Europe/Bucharest", ⟨6264, [.once (-1213148664) 7200, .once (-1187056800) 10800,
     .once (-1175479200) 7200,
     .yearly 1933 1939 [⟨4, .onOrAfter 6 1, 79200, 10800⟩, ⟨10, .onOrAfter 0 1, -7200, 7200⟩],
     .once 296604000 10800, .once 307486800 7200, .once 323816400 10800, .once 338940000 7200,
     .yearly 1981 1990 [⟨3, .last 0, 0, 10800⟩, ⟨9, .last 0, 0, 7200⟩],
     .yearly 1991 1993 [⟨3, .last 6, 79200, 10800⟩, ⟨9, .last 6, 79200, 7200⟩],
     .yearly 1994 1995 [⟨3, .last 6, 79200, 10800⟩, ⟨9, .onOrAfter 6 22, 75600, 7200⟩],
     .once 828223200 10800, .once 846363600 7200,
     .yearly 1997 2099 [⟨3, .last 0, 3600, 10800⟩, ⟨10, .last 0, 3600, 7200⟩]]⟩),
   ("Europe/Budapest", ⟨4580, [.once (-2498260580) 3600, .once (-1693706400) 7200,
     .once (-1680483600) 3600,
     .yearly 1917 1918 [⟨4, .onOrAfter 1 15, 3600, 7200⟩, ⟨9, .onOrAfter 1 15, 3600, 3600⟩],
     .once (-1600470000) 7200, .once (-1587250800) 3600, .once (-1569711600) 7200,
     .once (-1555196400) 3600, .once (-906775200) 7200, .once (-857257200) 3600,
     .once (-844556400) 7200, .once (-828226800) 3600, .once (-812502000) 7200,
     .once (-796777200) 3600, .once (-778471200) 7200, .once (-762656400) 3600,
     .once (-749689200) 7200, .once (-733276800) 3600,
     .yearly 1947 1949 [⟨4, .onOrAfter 0 4, 3600, 7200⟩, ⟨10, .onOrAfter 0 1, 3600, 3600⟩],
     .once (-492656400) 7200, .once (-481168800) 3600, .once (-461199600) 7200,
     .once (-449708400) 3600,
     .yearly 1956 1957 [⟨6, .onOrAfter 0 1, 3600, 7200⟩, ⟨9, .last 0, 3600, 3600⟩],
     .once 323823600 7200, .once 338943600 3600,
     .yearly 1981 1983 [⟨3, .last 6, 82800, 7200⟩, ⟨9, .last 6, 82800, 3600⟩],
     .yearly 1984 1995 [⟨3, .last 0, 3600, 7200⟩, ⟨9, .last 0, 3600, 3600⟩],
     .yearly 1996 2099 [⟨3, .last 0, 3600, 7200⟩, ⟨10, .last 0, 3600, 3600⟩]]⟩),
   ("Europe/Chisinau", ⟨6920, [.once (-2840147720) 6900, .once (-1637114100) 6264,
     .once (-1213148664) 7200, .once (-1187056800) 10800, .once (-1175479200) 7200,
     .yearly 1933 1939 [⟨4, .onOrAfter 6 1, 79200, 10800⟩, ⟨10, .onOrAfter 0 1, -7200, 7200⟩],
     .once (-927165600) 10800, .once (-898138800) 7200, .once (-857257200) 3600,
     .once (-844556400) 7200, .once (-828226800) 3600, .once (-812502000) 7200,
     .once (-800157600) 10800,
     .yearly 1981 1983 [⟨3, .on 31, 75600, 14400⟩, ⟨9, .on 30, 72000, 10800⟩],
     .once 449614800 14400, .once 465346800 10800,
     .yearly 1985 1989 [⟨3, .last 6, 82800, 14400⟩, ⟨9, .onOrAfter 6 22, 82800, 10800⟩],
     .once 638319600 14400, .once 641944800 10800, .once 654652800 7200, .once 670377600 10800,
     .once 686102400 7200,
     .yearly 1992 1995 [⟨3, .last 6, 79200, 10800⟩, ⟨9, .onOrAfter 6 22, 75600, 7200⟩],
     .once 828223200 10800, .once 846363600 7200,
     .yearly 1997 2099 [⟨3, .last 0, 0, 10800⟩, ⟨10, .last 0, 0, 7200⟩]]⟩),
   ("Europe/Dublin", ⟨-1521, [.once (-1691962479) 2079, .once (-1680471279) 0,
     .once (-1664143200) 3600, .once (-1650146400) 0,
     .yearly 1918 1919 [⟨3, .onOrAfter 0 24, 7200, 3600⟩, ⟨9, .last 1, 7200, 0⟩],
     .once (-1570399200) 3600, .once (-1552168800) 0, .once (-1538344800) 3600,
     .once (-1522533600) 0, .once (-1507500000) 3600, .once (-1490565600) 0,
     .once (-1473631200) 3600, .once (-1460930400) 0, .once (-1442786400) 3600,
     .once (-1428876000) 0,
     .yearly 1925 1926 [⟨4, .onOrAfter 0 15, 7200, 3600⟩, ⟨10, .onOrAfter 0 1, 7200, 0⟩],
     .once (-1348437600) 3600, .once (-1333317600) 0,
     .yearly 1928 1929 [⟨4, .onOrAfter 0 16, 7200, 3600⟩, ⟨10, .onOrAfter 0 1, 7200, 0⟩],
     .yearly 1930 1932 [⟨4, .onOrAfter 0 13, 7200, 3600⟩, ⟨10, .onOrAfter 0 1, 7200, 0⟩],
     .once (-1159135200) 3600, .once (-1143410400) 0, .once (-1126476000) 3600,
     .once (-1111960800) 0,
     .yearly 1935 1937 [⟨4, .onOrAfter 0 13, 7200, 3600⟩, ⟨10, .onOrAfter 0 1, 7200, 0⟩],
     .once (-1001282400) 3600, .once (-986162400) 0, .once (-969228000) 3600,
     .once (-950479200) 0, .once (-942012000) 3600, .once (-733356000) 0,
     .once (-719445600) 3600, .once (-699487200) 0, .once (-684972000) 3600,
     .once (-668037600) 0, .once (-654732000) 3600, .once (-636588000) 0,
     .yearly 1950 1952 [⟨4, .onOrAfter 0 15, 7200, 3600⟩, ⟨10, .onOrAfter 0 20, 7200, 0⟩],
     .once (-527119200) 3600, .once (-512604000) 0,
     .yearly 1954 1955 [⟨4, .onOrAfter 0 11, 7200, 3600⟩, ⟨10, .onOrAfter 0 1, 7200, 0⟩],
     .once (-432165600) 3600, .once (-417650400) 0,
     .yearly 1957 1959 [⟨4, .onOrAfter 0 14, 7200, 3600⟩, ⟨10, .onOrAfter 0 1, 7200, 0⟩],
     .once (-306972000) 3600, .once (-291852000) 0,
     .yearly 1961 1963 [⟨3, .last 0, 7200, 3600⟩, ⟨10, .last 0, 7200, 0⟩],
     .yearly 1964 1967 [⟨3, .onOrAfter 0 16, 7200, 3600⟩, ⟨10, .onOrAfter 0 23, 7200, 0⟩],
     .once (-59004000) 3600, .once 57722400 0,
     .yearly 1972 1980 [⟨3, .onOrAfter 0 15, 7200, 3600⟩, ⟨10, .onOrAfter 0 23, 7200, 0⟩],
     .yearly 1981 1994 [⟨3, .last 0, 3600, 3600⟩, ⟨10, .onOrAfter 0 23, 3600, 0⟩],
     .yearly 1995 1998 [⟨3, .last 0, 3600, 3600⟩, ⟨10, .onOrAfter 0 22, 3600, 0⟩],
     .yearly 1999 2099 [⟨3, .last 0, 3600, 3600⟩, ⟨10, .last 0, 3600, 0⟩]]⟩),
   ("Europe/Gibraltar", ⟨-1284, [.once (-2821649916) 0, .once (-1691964000) 3600,
     .once (-1680472800) 0, .once (-1664143200) 3600, .once (-1650146400) 0,
     .yearly 1918 1919 [⟨3, .onOrAfter 0 24, 7200, 3600⟩, ⟨9, .last 1, 7200, 0⟩],
     .once (-1570399200) 3600, .once (-1552168800) 0, .once (-1538344800) 3600,
     .once (-1522533600) 0, .once (-1507500000) 3600, .once (-1490565600) 0,
     .once (-1473631200) 3600, .once (-1460930400) 0, .once (-1442786400) 3600,
     .once (-1428876000) 0,
     .yearly 1925 1926 [⟨4, .onOrAfter 0 15, 7200, 3600⟩, ⟨10, .onOrAfter 0 1, 7200, 0⟩],
     .once (-1348437600) 3600, .once (-1333317600) 0,
     .yearly 1928 1929 [⟨4, .onOrAfter 0 16, 7200, 3600⟩, ⟨10, .onOrAfter 0 1, 7200, 0⟩],
     .yearly 1930 1932 [⟨4, .onOrAfter 0 13, 7200, 3600⟩, ⟨10, .onOrAfter 0 1, 7200, 0⟩],
     .once (-1159135200) 3600, .once (-1143410400) 0, .once (-1126476000) 3600,
     .once (-1111960800) 0,
     .yearly 1935 1937 [⟨4, .onOrAfter 0 13, 7200, 3600⟩, ⟨10, .onOrAfter 0 1, 7200, 0⟩],
     .once (-1001282400) 3600, .once (-986162400) 0, .once (-969228000) 3600,
     .once (-950479200) 0, .once (-942012000) 3600, .once (-904518000) 7200,
     .once (-896050800) 3600,
     .yearly 1942 1943 [⟨4, .onOrAfter 0 1, 3600, 7200⟩, ⟨8, .onOrAfter 0 9, 3600, 3600⟩],
     .once (-812588400) 7200, .once (-798073200) 3600, .once (-781052400) 7200,
     .once (-772066800) 3600, .once (-764805600) 0, .once (-748476000) 3600,
     .once (-733356000) 0, .once (-719445600) 3600, .once (-717030000) 7200,
     .once (-706748400) 3600, .once (-699487200) 0, .once (-687996000) 3600,
     .once (-668037600) 0, .once (-654732000) 3600, .once (-636588000) 0,
     .yearly 1950 1952 [⟨4, .onOrAfter 0 15, 7200, 3600⟩, ⟨10, .onOrAfter 0 20, 7200, 0⟩],
     .once (-527119200) 3600, .once (-512604000) 0,
     .yearly 1954 1955 [⟨4, .onOrAfter 0 11, 7200, 3600⟩, ⟨10, .onOrAfter 0 1, 7200, 0⟩],
     .once (-432165600) 3600, .once (-417650400) 0, .once (-401320800) 3600,
     .yearly 1982 1995 [⟨3, .last 0, 3600, 7200⟩, ⟨9, .last 0, 3600, 3600⟩],
     .yearly 1996 2099 [⟨3, .last 0, 3600, 7200⟩, ⟨10, .last 0, 3600, 3600⟩]]⟩),
   ("Europe/Helsinki", ⟨5989, [.once (-1535938789) 7200, .once (-875671200) 10800,
     .once (-859773600) 7200, .yearly 1981 1982 [⟨3, .last 0, 0, 10800⟩, ⟨9, .last 0, 0, 7200⟩],
     .yearly 1983 1995 [⟨3, .last 0, 3600, 10800⟩, ⟨9, .last 0, 3600, 7200⟩],
     .yearly 1996 2099 [⟨3, .last 0, 3600, 10800⟩, ⟨10, .last 0, 3600, 7200⟩]]⟩),
   ("Europe/Istanbul", ⟨6952, [.once (-2840147752) 7016, .once (-1869875816) 7200,
     .once (-1693706400) 10800, .once (-1680490800) 7200, .once (-1570413600) 10800,
     .once (-1552186800) 7200, .once (-1538359200) 10800, .once (-1522551600) 7200,
     .once (-1507514400) 10800, .once (-1490583600) 7200, .once (-1440208800) 10800,
     .once (-1428030000) 7200, .once (-1409709600) 10800, .once (-1396494000) 7200,
     .once (-931053600) 10800, .once (-922676400) 7200, .once (-917834400) 10800,
     .once (-892436400) 7200, .once (-875844000) 10800, .once (-764737200) 7200,
     .once (-744343200) 10800, .once (-733806000) 7200,
     .yearly 1947 1948 [⟨4, .onOrAfter 6 15, 79200, 10800⟩, ⟨10, .onOrAfter 6 1, 75600, 7200⟩],
     .yearly 1949 1950 [⟨4, .onOrAfter 6 9, 79200, 10800⟩, ⟨10, .onOrAfter 6 1, 75600, 7200⟩],
     .once (-590032800) 10800, .once (-575521200) 7200, .once (-235620000) 10800,
     .once (-194842800) 7200, .once (-177732000) 10800, .once (-165726000) 7200,
     .once 107910000 10800, .once 121215600 7200, .once 133920000 10800, .once 152665200 7200,
     .once 164678400 10800, .once 184114800 7200, .once 196214400 10800, .once 215564400 7200,
     .once 228873600 10800, .once 245804400 7200, .once 260323200 10800, .once 428454000 14400,
     .once 433893600 10800, .once 468111600 7200, .once 482799600 10800, .once 496710000 7200,
     .yearly 1986 1993 [⟨3, .onOrAfter 6 24, 82800, 10800⟩, ⟨9, .onOrAfter 6 23, 82800, 7200⟩],
     .yearly 1994 1995 [⟨3, .onOrAfter 6 19, 82800, 10800⟩, ⟨9, .onOrAfter 6 22, 82800, 7200⟩],
     .yearly 1996 2006 [⟨3, .onOrAfter 6 24, 82800, 10800⟩, ⟨10, .onOrAfter 6 24, 82800, 7200⟩],
     .yearly 2007 2010 [⟨3, .last 0, 3600, 10800⟩, ⟨10, .last 0, 3600, 7200⟩],
     .once 1301274000 10800, .once 1319936400 7200,
     .yearly 2012 2013 [⟨3, .last 0, 3600, 10800⟩, ⟨10, .last 0, 3600, 7200⟩],
     .once 1396227600 10800, .once 1414285200 7200, .once 1427590800 10800,
     .once 1446944400 7200, .once 1459040400 10800]⟩),
   ("Europe/Kaliningrad", ⟨4920, [.once (-2422056120) 3600, .once (-1693706400) 7200,
     .once (-1680483600) 3600,
     .yearly 1917 1918 [⟨4, .onOrAfter 1 15, 3600, 7200⟩, ⟨9, .onOrAfter 1 15, 3600, 3600⟩],
     .once (-938905200) 7200, .once (-857257200) 3600, .once (-844556400) 7200,
     .once (-828226800) 3600, .once (-812502000) 7200, .once (-796777200) 3600,
     .once (-781052400) 7200, .once (-778730400) 10800, .once (-762663600) 7200,
     .once (-749095200) 10800,
     .yearly 1981 1983 [⟨3, .on 31, 75600, 14400⟩, ⟨9, .on 30, 72000, 10800⟩],
     .once 449614800 14400, .once 465346800 10800,
     .yearly 1985 1988 [⟨3, .last 6, 82800, 14400⟩, ⟨9, .last 6, 82800, 10800⟩],
     .once 622598400 7200, .yearly 1990 1995 [⟨3, .last 0, 0, 10800⟩, ⟨9, .last 0, 0, 7200⟩],
     .yearly 1996 2010 [⟨3, .last 0, 0, 10800⟩, ⟨10, .last 0, 0, 7200⟩], .once 1301184000 10800,
     .once 1414278000 7200]⟩),
   ("Europe/Kirov", ⟨11928, [.once (-1593820800) 10800, .once (-1247540400) 14400,
     .yearly 1981 1983 [⟨3, .on 31, 72000, 18000⟩, ⟨9, .on 30, 68400, 14400⟩],
     .once 449611200 18000, .once 465343200 14400,
     .yearly 1985 1988 [⟨3, .last 6, 79200, 18000⟩, ⟨9, .last 6, 79200, 14400⟩],
     .once 622594800 10800, .once 638319600 14400, .once 654649200 10800, .once 670374000 14400,
     .once 717548400 10800,
     .yearly 1993 1995 [⟨3, .last 6, 82800, 14400⟩, ⟨9, .onOrAfter 6 22, 82800, 10800⟩],
     .yearly 1996 2010 [⟨3, .onOrAfter 6 24, 82800, 14400⟩, ⟨10, .onOrAfter 6 24, 82800, 10800⟩],
     .once 1301180400 14400, .once 1414274400 10800]⟩),
   ("Europe/Kyiv", ⟨7324, [.once (-1441159324) 7200, .once (-1247536800) 10800,
     .once (-892522800) 7200, .once (-857257200) 3600, .once (-844556400) 7200,
     .once (-828226800) 3600, .once (-825382800) 10800,
     .yearly 1981 1983 [⟨3, .on 31, 75600, 14400⟩, ⟨9, .on 30, 72000, 10800⟩],
     .once 449614800 14400, .once 465346800 10800,
     .yearly 1985 1989 [⟨3, .last 6, 82800, 14400⟩, ⟨9, .onOrAfter 6 22, 82800, 10800⟩],
     .once 638319600 14400, .once 646783200 10800, .once 686102400 7200,
     .yearly 1992 1995 [⟨3, .last 0, 0, 10800⟩, ⟨9, .last 0, 0, 7200⟩], .once 828230400 10800,
     .once 846378000 7200,
     .yearly 1997 2099 [⟨3, .last 0, 3600, 10800⟩, ⟨10, .last 0, 3600, 7200⟩]]⟩),
   ("Europe/Lisbon", ⟨-2205, [.once (-1830384000) 0, .once (-1689555600) 3600,
     .once (-1677801600) 0, .yearly 1917 1921 [⟨3, .on 1, 0, 3600⟩, ⟨10, .on 14, 82800, 0⟩],
     .once (-1442451600) 3600, .once (-1427677200) 0, .once (-1379293200) 3600,
     .once (-1364778000) 0,
     .yearly 1927 1928 [⟨4, .onOrAfter 6 8, 82800, 3600⟩, ⟨10, .onOrAfter 6 1, 82800, 0⟩],
     .once (-1284339600) 3600, .once (-1269824400) 0, .once (-1221440400) 3600,
     .once (-1206925200) 0, .once (-1191200400) 3600, .once (-1175475600) 0,
     .once (-1127696400) 3600, .once (-1111971600) 0, .once (-1096851600) 3600,
     .once (-1080522000) 0, .once (-1063587600) 3600, .once (-1049072400) 0,
     .once (-1033347600) 3600, .once (-1017622800) 0, .once (-1002502800) 3600,
     .once (-986173200) 0, .once (-969238800) 3600, .once (-950490000) 0,
     .once (-942022800) 3600, .once (-922496400) 0, .once (-906944400) 3600,
     .once (-891133200) 0, .once (-877309200) 3600, .once (-873684000) 7200,
     .once (-864007200) 3600, .once (-857955600) 0,
     .yearly 1943 1945 [⟨3, .onOrAfter 6 8, 82800, 3600⟩, ⟨4, .onOrAfter 6 16, 79200, 7200⟩,
       ⟨8, .last 6, 79200, 3600⟩, ⟨10, .last 6, 82800, 0⟩],
     .once (-749091600) 3600, .once (-733366800) 0,
     .yearly 1947 1965 [⟨4, .onOrAfter 0 1, 7200, 3600⟩, ⟨10, .onOrAfter 0 1, 7200, 0⟩],
     .once (-118274400) 3600, .once 212544000 0, .once 228268800 3600, .once 243993600 0,
     .yearly 1978 1980 [⟨4, .onOrAfter 0 1, 3600, 3600⟩, ⟨9, .last 6, 90000, 0⟩],
     .yearly 1981 1985 [⟨3, .last 0, 0, 3600⟩, ⟨9, .last 0, 0, 0⟩],
     .yearly 1986 1991 [⟨3, .last 0, 3600, 3600⟩, ⟨9, .last 0, 3600, 0⟩], .once 701830800 3600,
     .yearly 1993 1995 [⟨3, .last 0, 3600, 7200⟩, ⟨9, .last 0, 3600, 3600⟩], .once 846378000 0,
     .yearly 1997 2099 [⟨3, .last 0, 3600, 3600⟩, ⟨10, .last 0, 3600, 0⟩]]⟩),
   ("Europe/London", ⟨-75, [.once (-3852662325) 0, .once (-1691964000) 3600,
     .once (-1680472800) 0, .once (-1664143200) 3600, .once (-1650146400) 0,
     .yearly 1918 1919 [⟨3, .onOrAfter 0 24, 7200, 3600⟩, ⟨9, .last 1, 7200, 0⟩],
     .once (-1570399200) 3600, .once (-1552168800) 0, .once (-1538344800) 3600,
     .once (-1522533600) 0, .once (-1507500000) 3600, .once (-1490565600) 0,
     .once (-1473631200) 3600, .once (-1460930400) 0, .once (-1442786400) 3600,
     .once (-1428876000) 0,
     .yearly 1925 1926 [⟨4, .onOrAfter 0 15, 7200, 3600⟩, ⟨10, .onOrAfter 0 1, 7200, 0⟩],
     .once (-1348437600) 3600, .once (-1333317600) 0,
     .yearly 1928 1929 [⟨4, .onOrAfter 0 16, 7200, 3600⟩, ⟨10, .onOrAfter 0 1, 7200, 0⟩],
     .yearly 1930 1932 [⟨4, .onOrAfter 0 13, 7200, 3600⟩, ⟨10, .onOrAfter 0 1, 7200, 0⟩],
     .once (-1159135200) 3600, .once (-1143410400) 0, .once (-1126476000) 3600,
     .once (-1111960800) 0,
     .yearly 1935 1937 [⟨4, .onOrAfter 0 13, 7200, 3600⟩, ⟨10, .onOrAfter 0 1, 7200, 0⟩],
     .once (-1001282400) 3600, .once (-986162400) 0, .once (-969228000) 3600,
     .once (-950479200) 0, .once (-942012000) 3600, .once (-904518000) 7200,
     .once (-896050800) 3600,
     .yearly 1942 1943 [⟨4, .onOrAfter 0 1, 3600, 7200⟩, ⟨8, .onOrAfter 0 9, 3600, 3600⟩],
     .once (-812588400) 7200, .once (-798073200) 3600, .once (-781052400) 7200,
     .once (-772066800) 3600, .once (-764805600) 0, .once (-748476000) 3600,
     .once (-733356000) 0, .once (-719445600) 3600, .once (-717030000) 7200,
     .once (-706748400) 3600, .once (-699487200) 0, .once (-687996000) 3600,
     .once (-668037600) 0, .once (-654732000) 3600, .once (-636588000) 0,
     .yearly 1950 1952 [⟨4, .onOrAfter 0 15, 7200, 3600⟩, ⟨10, .onOrAfter 0 20, 7200, 0⟩],
     .once (-527119200) 3600, .once (-512604000) 0,
     .yearly 1954 1955 [⟨4, .onOrAfter 0 11, 7200, 3600⟩, ⟨10, .onOrAfter 0 1, 7200, 0⟩],
     .once (-432165600) 3600, .once (-417650400) 0,
     .yearly 1957 1959 [⟨4, .onOrAfter 0 14, 7200, 3600⟩, ⟨10, .onOrAfter 0 1, 7200, 0⟩],
     .once (-306972000) 3600, .once (-291852000) 0,
     .yearly 1961 1963 [⟨3, .last 0, 7200, 3600⟩, ⟨10, .last 0, 7200, 0⟩],
     .yearly 1964 1967 [⟨3, .onOrAfter 0 16, 7200, 3600⟩, ⟨10, .onOrAfter 0 23, 7200, 0⟩],
     .once (-59004000) 3600, .once 57722400 0,
     .yearly 1972 1980 [⟨3, .onOrAfter 0 15, 7200, 3600⟩, ⟨10, .onOrAfter 0 23, 7200, 0⟩],
     .yearly 1981 1994 [⟨3, .last 0, 3600, 3600⟩, ⟨10, .onOrAfter 0 23, 3600, 0⟩],
     .yearly 1995 1998 [⟨3, .last 0, 3600, 3600⟩, ⟨10, .onOrAfter 0 22, 3600, 0⟩],
     .yearly 1999 2099 [⟨3, .last 0, 3600, 3600⟩, ⟨10, .last 0, 3600, 0⟩]]⟩),
   ("Europe/Madrid", ⟨-884, [.once (-2177452800) 0, .once (-1631926800) 3600,
     .once (-1616889600) 0, .once (-1601168400) 3600, .once (-1585353600) 0,
     .once (-1442451600) 3600, .once (-1427673600) 0, .once (-1379293200) 3600,
     .once (-1364774400) 0, .once (-1348448400) 3600, .once (-1333324800) 0,
     .once (-1316390400) 3600, .once (-1301270400) 0, .once (-1284339600) 3600,
     .once (-1269820800) 0, .once (-1026954000) 3600, .once (-1017619200) 0,
     .once (-1001898000) 3600, .once (-999482400) 7200, .once (-986090400) 3600,
     .once (-954115200) 0, .once (-940208400) 3600, .once (-873079200) 7200,
     .once (-862621200) 3600,
     .yearly 1943 1944 [⟨4, .onOrAfter 6 15, 79200, 7200⟩, ⟨10, .onOrAfter 0 1, -3600, 3600⟩],
     .yearly 1945 1946 [⟨4, .onOrAfter 6 8, 79200, 7200⟩, ⟨9, .last 6, 82800, 3600⟩],
     .once (-652327200) 7200, .once (-639018000) 3600,
     .yearly 1974 1975 [⟨4, .onOrAfter 6 8, 79200, 7200⟩, ⟨10, .onOrAfter 6 1, 82800, 3600⟩],
     .once 196812000 7200, .once 212540400 3600, .once 228866400 7200, .once 243990000 3600,
     .yearly 1978 1980 [⟨4, .onOrAfter 0 1, 3600, 7200⟩, ⟨9, .last 6, 90000, 3600⟩],
     .yearly 1981 1995 [⟨3, .last 0, 3600, 7200⟩, ⟨9, .last 0, 3600, 3600⟩],
     .yearly 1996 2099 [⟨3, .last 0, 3600, 7200⟩, ⟨10, .last 0, 3600, 3600⟩]]⟩),
   ("Europe/Malta", ⟨3484, [.once (-2403478684) 3600, .once (-1690765200) 7200,
     .once (-1680487200) 3600, .once (-1664758800) 7200, .once (-1648951200) 3600,
     .once (-1635123600) 7200, .once (-1616896800) 3600, .once (-1604278800) 7200,
     .once (-1585533600) 3600, .once (-1571014800) 7200, .once (-1555293600) 3600,
     .once (-932432400) 7200, .once (-857257200) 3600, .once (-844556400) 7200,
     .once (-828226800) 3600, .once (-812588400) 7200, .once (-798073200) 3600,
     .once (-781052400) 7200, .once (-766717200) 3600, .once (-750898800) 7200,
     .once (-733359600) 3600, .once (-719456400) 7200, .once (-701917200) 3600,
     .once (-689209200) 7200, .once (-670460400) 3600, .once (-114051600) 7200,
     .once (-103168800) 3600,
     .yearly 1967 1970 [⟨5, .last 6, 82800, 7200⟩, ⟨9, .onOrAfter 6 21, 82800, 3600⟩],
     .yearly 1971 1972 [⟨5, .onOrAfter 6 22, 82800, 7200⟩, ⟨9, .last 6, 82800, 3600⟩],
     .once 102380400 7200, .once 118105200 3600, .once 135730800 7200, .once 148518000 3600,
     .yearly 1975 1979 [⟨4, .onOrAfter 0 15, 3600, 7200⟩, ⟨9, .onOrAfter 0 15, 0, 3600⟩],
     .once 323312400 7200, .once 338342400 3600,
     .yearly 1981 1995 [⟨3, .last 0, 3600, 7200⟩, ⟨9, .last 0, 3600, 3600⟩],
     .yearly 1996 2099 [⟨3, .last 0, 3600, 7200⟩, ⟨10, .last 0, 3600, 3600⟩]]⟩),
   ("Europe/Minsk", ⟨6616, [.once (-2840147416) 6600, .once (-1441158600) 7200,
     .once (-1247536800) 10800, .once (-899780400) 7200, .once (-857257200) 3600,
     .once (-844556400) 7200, .once (-828226800) 3600, .once (-812502000) 7200,
     .once (-804650400) 10800,
     .yearly 1981 1983 [⟨3, .on 31, 75600, 14400⟩, ⟨9, .on 30, 72000, 10800⟩],
     .once 449614800 14400, .once 465346800 10800,
     .yearly 1985 1989 [⟨3, .last 6, 82800, 14400⟩, ⟨9, .onOrAfter 6 22, 82800, 10800⟩],
     .once 686102400 7200, .yearly 1992 1995 [⟨3, .last 0, 0, 10800⟩, ⟨9, .last 0, 0, 7200⟩],
     .yearly 1996 2010 [⟨3, .last 0, 0, 10800⟩, ⟨10, .last 0, 0, 7200⟩], .once 1301184000 10800]⟩),
   ("Europe/Moscow", ⟨9017, [.once (-1688265017) 9079, .once (-1656819079) 12679,
     .once (-1641353479) 9079, .once (-1627965079) 16279, .once (-1618716679) 12679,
     .once (-1596429079) 16279, .once (-1593820800) 14400, .once (-1589860800) 10800,
     .once (-1542427200) 14400, .once (-1539493200) 18000, .once (-1525323600) 14400,
     .once (-1522728000) 10800, .once (-1491188400) 7200, .once (-1247536800) 10800,
     .yearly 1981 1983 [⟨3, .on 31, 75600, 14400⟩, ⟨9, .on 30, 72000, 10800⟩],
     .once 449614800 14400, .once 465346800 10800,
     .yearly 1985 1990 [⟨3, .onOrAfter 6 24, 82800, 14400⟩, ⟨9, .onOrAfter 6 23, 82800, 10800⟩],
     .once 686102400 7200, .once 695779200 10800,
     .yearly 1992 1995 [⟨3, .last 6, 82800, 14400⟩, ⟨9, .onOrAfter 6 22, 82800, 10800⟩],
     .yearly 1996 2010 [⟨3, .onOrAfter 6 24, 82800, 14400⟩, ⟨10, .onOrAfter 6 24, 82800, 10800⟩],
     .once 1301180400 14400, .once 1414274400 10800]⟩),
   ("Europe/Paris", ⟨561, [.once (-1855958961) 0, .once (-1689814800) 3600,
     .once (-1680397200) 0, .once (-1665363600) 3600, .once (-1648342800) 0,
     .once (-1635123600) 3600, .once (-1616893200) 0, .once (-1604278800) 3600,
     .once (-1585443600) 0, .once (-1574038800) 3600, .once (-1552266000) 0,
     .once (-1539997200) 3600, .once (-1520557200) 0, .once (-1507510800) 3600,
     .once (-1490576400) 0, .once (-1470618000) 3600, .once (-1459126800) 0,
     .once (-1444006800) 3600, .once (-1427677200) 0, .once (-1411952400) 3600,
     .once (-1396227600) 0, .once (-1379293200) 3600, .once (-1364778000) 0,
     .yearly 1927 1928 [⟨4, .onOrAfter 6 8, 82800, 3600⟩, ⟨10, .onOrAfter 6 1, 82800, 0⟩],
     .once (-1284339600) 3600, .once (-1269824400) 0,
     .yearly 1930 1931 [⟨4, .onOrAfter 6 12, 82800, 3600⟩, ⟨10, .onOrAfter 6 1, 82800, 0⟩],
     .once (-1191200400) 3600, .once (-1175475600) 0, .once (-1160355600) 3600,
     .once (-1143421200) 0, .once (-1127696400) 3600, .once (-1111971600) 0,
     .once (-1096851600) 3600, .once (-1080522000) 0, .once (-1063587600) 3600,
     .once (-1049072400) 0, .once (-1033347600) 3600, .once (-1017622800) 0,
     .once (-1002502800) 3600, .once (-986173200) 0, .once (-969238800) 3600,
     .once (-950490000) 0, .once (-942012000) 3600, .once (-932436000) 7200,
     .once (-857257200) 3600, .once (-844556400) 7200, .once (-828226800) 3600,
     .once (-812502000) 7200, .once (-796266000) 3600, .once (-781052400) 7200,
     .once (-766623600) 3600, .once 196819200 7200, .once 212540400 3600,
     .yearly 1977 1980 [⟨4, .onOrAfter 0 1, 3600, 7200⟩, ⟨9, .last 6, 90000, 3600⟩],
     .yearly 1981 1995 [⟨3, .last 0, 3600, 7200⟩, ⟨9, .last 0, 3600, 3600⟩],
     .yearly 1996 2099 [⟨3, .last 0, 3600, 7200⟩, ⟨10, .last 0, 3600, 3600⟩]]⟩),
   ("Europe/Prague", ⟨3464, [.once (-2469401864) 3600, .once (-1693706400) 7200,
     .once (-1680483600) 3600,
     .yearly 1917 1918 [⟨4, .onOrAfter 1 15, 3600, 7200⟩, ⟨9, .onOrAfter 1 15, 3600, 3600⟩],
     .once (-938905200) 7200, .once (-857257200) 3600, .once (-844556400) 7200,
     .once (-828226800) 3600,
     .yearly 1944 1945 [⟨4, .onOrAfter 1 1, 3600, 7200⟩, ⟨10, .onOrAfter 1 1, 3600, 3600⟩],
     .once (-746578800) 7200, .once (-733359600) 3600, .once (-728517600) 0,
     .once (-721260000) 3600,
     .yearly 1947 1948 [⟨4, .onOrAfter 0 15, 3600, 7200⟩, ⟨10, .onOrAfter 0 1, 3600, 3600⟩],
     .once (-654217200) 7200, .once (-639010800) 3600,
     .yearly 1979 1980 [⟨4, .onOrAfter 0 1, 3600, 7200⟩, ⟨9, .last 0, 3600, 3600⟩],
     .yearly 1981 1995 [⟨3, .last 0, 3600, 7200⟩, ⟨9, .last 0, 3600, 3600⟩],
     .yearly 1996 2099 [⟨3, .last 0, 3600, 7200⟩, ⟨10, .last 0, 3600, 3600⟩]]⟩),
   ("Europe/Riga", ⟨5794, [.once (-1632008194) 9394, .once (-1618702594) 5794,
     .once (-1601681794) 9394, .once (-1597275394) 5794, .once (-1377308194) 7200,
     .once (-928029600) 10800, .once (-899521200) 7200, .once (-857257200) 3600,
     .once (-844556400) 7200, .once (-828226800) 3600, .once (-812502000) 7200,
     .once (-796777200) 3600, .once (-795834000) 10800,
     .yearly 1981 1983 [⟨3, .on 31, 75600, 14400⟩, ⟨9, .on 30, 72000, 10800⟩],
     .once 449614800 14400, .once 465346800 10800,
     .yearly 1985 1988 [⟨3, .last 6, 82800, 14400⟩, ⟨9, .last 6, 82800, 10800⟩],
     .once 622598400 7200, .yearly 1990 1996 [⟨3, .last 0, 0, 10800⟩, ⟨9, .last 0, 0, 7200⟩],
     .yearly 1997 1999 [⟨3, .last 0, 3600, 10800⟩, ⟨10, .last 0, 3600, 7200⟩],
     .yearly 2001 2099 [⟨3, .last 0, 3600, 10800⟩, ⟨10, .last 0, 3600, 7200⟩]]⟩),
   ("Europe/Rome", ⟨2996, [.once (-2403565200) 3600, .once (-1690765200) 7200,
     .once (-1680487200) 3600, .once (-1664758800) 7200, .once (-1648951200) 3600,
     .once (-1635123600) 7200, .once (-1616896800) 3600, .once (-1604278800) 7200,
     .once (-1585533600) 3600, .once (-1571014800) 7200, .once (-1555293600) 3600,
     .once (-932432400) 7200, .once (-857257200) 3600, .once (-844556400) 7200,
     .once (-828226800) 3600, .once (-812502000) 7200, .once (-798073200) 3600,
     .once (-781052400) 7200, .once (-766717200) 3600, .once (-750898800) 7200,
     .once (-733359600) 3600, .once (-719456400) 7200, .once (-701917200) 3600,
     .once (-689209200) 7200, .once (-670460400) 3600, .once (-114051600) 7200,
     .once (-103168800) 3600,
     .yearly 1967 1970 [⟨5, .last 6, 82800, 7200⟩, ⟨9, .onOrAfter 6 21, 82800, 3600⟩],
     .yearly 1971 1972 [⟨5, .onOrAfter 6 22, 82800, 7200⟩, ⟨9, .last 6, 82800, 3600⟩],
     .once 107910000 7200, .once 118191600 3600,
     .yearly 1974 1976 [⟨5, .last 6, 82800, 7200⟩, ⟨9, .last 6, 82800, 3600⟩],
     .yearly 1977 1979 [⟨5, .onOrAfter 6 21, 82800, 7200⟩, ⟨9, .last 6, 82800, 3600⟩],
     .once 323830800 7200, .once 338950800 3600,
     .yearly 1981 1995 [⟨3, .last 0, 3600, 7200⟩, ⟨9, .last 0, 3600, 3600⟩],
     .yearly 1996 2099 [⟨3, .last 0, 3600, 7200⟩, ⟨10, .last 0, 3600, 3600⟩]]⟩),
   ("Europe/Samara", ⟨12020, [.once (-1593820800) 10800, .once (-1247540400) 14400,
     .yearly 1981 1983 [⟨3, .on 31, 72000, 18000⟩, ⟨9, .on 30, 68400, 14400⟩],
     .once 449611200 18000, .once 465343200 14400,
     .yearly 1985 1988 [⟨3, .last 6, 79200, 18000⟩, ⟨9, .last 6, 79200, 14400⟩],
     .once 622594800 10800, .once 638319600 14400, .once 654649200 10800, .once 687916800 14400,
     .yearly 1992 1995 [⟨3, .last 6, 79200, 18000⟩, ⟨9, .onOrAfter 6 22, 79200, 14400⟩],
     .yearly 1996 2009 [⟨3, .onOrAfter 6 24, 79200, 18000⟩, ⟨10, .onOrAfter 6 24, 79200, 14400⟩],
     .once 1288479600 10800, .once 1301180400 14400]⟩),
   ("Europe/Saratov", ⟨11058, [.once (-1593820800) 10800, .once (-1247540400) 14400,
     .yearly 1981 1983 [⟨3, .on 31, 72000, 18000⟩, ⟨9, .on 30, 68400, 14400⟩],
     .once 449611200 18000, .once 465343200 14400,
     .yearly 1985 1987 [⟨3, .last 6, 79200, 18000⟩, ⟨9, .last 6, 79200, 14400⟩],
     .once 591145200 10800,
     .yearly 1989 1990 [⟨3, .onOrAfter 6 22, 82800, 14400⟩, ⟨9, .onOrAfter 6 23, 82800, 10800⟩],
     .once 670374000 14400, .once 717548400 10800,
     .yearly 1993 1995 [⟨3, .last 6, 82800, 14400⟩, ⟨9, .onOrAfter 6 22, 82800, 10800⟩],
     .yearly 1996 2010 [⟨3, .onOrAfter 6 24, 82800, 14400⟩, ⟨10, .onOrAfter 6 24, 82800, 10800⟩],
     .once 1301180400 14400, .once 1414274400 10800, .once 1480806000 14400]⟩),
   ("Europe/Simferopol", ⟨8184, [.once (-2840148984) 8160, .once (-1441160160) 7200,
     .once (-1247536800) 10800, .once (-888894000) 7200, .once (-857257200) 3600,
     .once (-844556400) 7200, .once (-828226800) 3600, .once (-812502000) 7200,
     .once (-811648800) 10800,
     .yearly 1981 1983 [⟨3, .on 31, 75600, 14400⟩, ⟨9, .on 30, 72000, 10800⟩],
     .once 449614800 14400, .once 465346800 10800,
     .yearly 1985 1989 [⟨3, .last 6, 82800, 14400⟩, ⟨9, .onOrAfter 6 22, 82800, 10800⟩],
     .once 646786800 7200, .yearly 1992 1993 [⟨3, .last 0, 0, 10800⟩, ⟨9, .last 0, 0, 7200⟩],
     .once 764726400 10800, .once 767739600 14400, .once 780447600 10800, .once 796172400 14400,
     .once 811897200 10800, .once 828219600 14400, .once 846374400 10800, .once 877827600 7200,
     .yearly 1998 2013 [⟨3, .last 0, 3600, 10800⟩, ⟨10, .last 0, 3600, 7200⟩],
     .once 1396137600 14400, .once 1414274400 10800]⟩),
   ("Europe/Sofia", ⟨5596, [.once (-2840146396) 7016, .once (-2369527016) 7200,
     .once (-857257200) 3600, .once (-844556400) 7200, .once (-828226800) 3600,
     .once (-812502000) 7200, .once (-796777200) 3600, .once (-781048800) 7200,
     .once 291762000 10800, .once 307576800 7200, .once 323816400 10800, .once 339026400 7200,
     .once 355266000 10800, .once 370393200 7200, .once 386715600 10800, .once 401846400 7200,
     .yearly 1983 1990 [⟨3, .last 0, 0, 10800⟩, ⟨9, .last 0, 0, 7200⟩],
     .yearly 1991 1995 [⟨3, .last 6, 79200, 10800⟩, ⟨9, .onOrAfter 6 22, 75600, 7200⟩],
     .once 828223200 10800, .once 846363600 7200,
     .yearly 1997 2099 [⟨3, .last 0, 3600, 10800⟩, ⟨10, .last 0, 3600, 7200⟩]]⟩),
   ("Europe/Tallinn", ⟨5940, [.once (-1638322740) 3600, .once (-1632006000) 7200,
     .once (-1618700400) 3600, .once (-1593824400) 5940, .once (-1535938740) 7200,
     .once (-927943200) 10800, .once (-892954800) 7200, .once (-857257200) 3600,
     .once (-844556400) 7200, .once (-828226800) 3600, .once (-812502000) 7200,
     .once (-797652000) 10800,
     .yearly 1981 1983 [⟨3, .on 31, 75600, 14400⟩, ⟨9, .on 30, 72000, 10800⟩],
     .once 449614800 14400, .once 465346800 10800,
     .yearly 1985 1988 [⟨3, .last 6, 82800, 14400⟩, ⟨9, .last 6, 82800, 10800⟩],
     .once 622598400 7200, .yearly 1990 1995 [⟨3, .last 0, 0, 10800⟩, ⟨9, .last 0, 0, 7200⟩],
     .yearly 1996 1997 [⟨3, .last 0, 0, 10800⟩, ⟨10, .last 0, 0, 7200⟩], .once 891129600 10800,
     .once 909277200 7200, .once 922582800 10800, .once 941331600 7200,
     .yearly 2002 2099 [⟨3, .last 0, 3600, 10800⟩, ⟨10, .last 0, 3600, 7200⟩]]⟩),
   ("Europe/Tirane", ⟨4760, [.once (-1767230360) 3600, .once (-932346000) 7200,
     .once (-857257200) 3600, .once (-844556400) 7200, .once (-843519600) 3600,
     .once 136854000 7200, .once 149896800 3600, .once 168130800 7200, .once 181432800 3600,
     .yearly 1976 1977 [⟨5, .onOrAfter 6 1, 82800, 7200⟩, ⟨10, .onOrAfter 6 1, 79200, 3600⟩],
     .yearly 1978 1979 [⟨5, .onOrAfter 5 1, 82800, 7200⟩, ⟨9, .last 6, 79200, 3600⟩],
     .once 326156400 7200, .once 339458400 3600, .once 357087600 7200, .once 370389600 3600,
     .once 389142000 7200, .once 402444000 3600, .once 419468400 7200, .once 433807200 3600,
     .once 449622000 7200, .once 465354000 3600,
     .yearly 1985 1995 [⟨3, .last 0, 3600, 7200⟩, ⟨9, .last 0, 3600, 3600⟩],
     .yearly 1996 2099 [⟨3, .last 0, 3600, 7200⟩, ⟨10, .last 0, 3600, 3600⟩]]⟩),
   ("Europe/Ulyanovsk", ⟨11616, [.once (-1593820800) 10800, .once (-1247540400) 14400,
     .yearly 1981 1983 [⟨3, .on 31, 72000, 18000⟩, ⟨9, .on 30, 68400, 14400⟩],
     .once 449611200 18000, .once 465343200 14400,
     .yearly 1985 1988 [⟨3, .last 6, 79200, 18000⟩, ⟨9, .last 6, 79200, 14400⟩],
     .once 622594800 10800, .once 638319600 14400, .once 654649200 10800, .once 686102400 7200,
     .once 695779200 10800,
     .yearly 1992 1995 [⟨3, .last 6, 82800, 14400⟩, ⟨9, .onOrAfter 6 22, 82800, 10800⟩],
     .yearly 1996 2010 [⟨3, .onOrAfter 6 24, 82800, 14400⟩, ⟨10, .onOrAfter 6 24, 82800, 10800⟩],
     .once 1301180400 14400, .once 1414274400 10800, .once 1459033200 14400]⟩),
   ("Europe/Vienna", ⟨3921, [.once (-2422055121) 3600, .once (-1693706400) 7200,
     .once (-1680483600) 3600,
     .yearly 1917 1918 [⟨4, .onOrAfter 1 15, 3600, 7200⟩, ⟨9, .onOrAfter 1 15, 3600, 3600⟩],
     .once (-1569711600) 7200, .once (-1555801200) 3600, .once (-938905200) 7200,
     .once (-857257200) 3600, .once (-844556400) 7200, .once (-828226800) 3600,
     .once (-812502000) 7200, .once (-796777200) 3600, .once (-781052400) 7200,
     .once (-780188400) 3600, .once (-748479600) 7200, .once (-733273200) 3600,
     .once (-717634800) 7200, .once (-701910000) 3600, .once (-684975600) 7200,
     .once (-670460400) 3600, .once 323823600 7200, .once 338940000 3600,
     .yearly 1981 1995 [⟨3, .last 0, 3600, 7200⟩, ⟨9, .last 0, 3600, 3600⟩],
     .yearly 1996 2099 [⟨3, .last 0, 3600, 7200⟩, ⟨10, .last 0, 3600, 3600⟩]]⟩),
   ("Europe/Vilnius", ⟨6076, [.once (-2840146876) 5040, .once (-1672536240) 5736,
     .once (-1585100136) 3600, .once (-1561251600) 7200, .once (-1553565600) 3600,
     .once (-928198800) 10800, .once (-900126000) 7200, .once (-857257200) 3600,
     .once (-844556400) 7200, .once (-828226800) 3600, .once (-812502000) 7200,
     .once (-802144800) 10800,
     .yearly 1981 1983 [⟨3, .on 31, 75600, 14400⟩, ⟨9, .on 30, 72000, 10800⟩],
     .once 449614800 14400, .once 465346800 10800,
     .yearly 1985 1988 [⟨3, .last 6, 82800, 14400⟩, ⟨9, .last 6, 82800, 10800⟩],
     .once 622598400 7200, .yearly 1990 1995 [⟨3, .last 0, 0, 10800⟩, ⟨9, .last 0, 0, 7200⟩],
     .yearly 1996 1997 [⟨3, .last 0, 0, 10800⟩, ⟨10, .last 0, 0, 7200⟩], .once 909277200 3600,
     .once 922582800 7200,
     .yearly 2003 2099 [⟨3, .last 0, 3600, 10800⟩, ⟨10, .last 0, 3600, 7200⟩]]⟩),
   ("Europe/Volgograd", ⟨10660, [.once (-1577761060) 10800, .once (-1247540400) 14400,
     .yearly 1981 1983 [⟨3, .on 31, 72000, 18000⟩, ⟨9, .on 30, 68400, 14400⟩],
     .once 449611200 18000, .once 465343200 14400,
     .yearly 1985 1987 [⟨3, .last 6, 79200, 18000⟩, ⟨9, .last 6, 79200, 14400⟩],
     .once 591145200 10800,
     .yearly 1989 1990 [⟨3, .onOrAfter 6 22, 82800, 14400⟩, ⟨9, .onOrAfter 6 23, 82800, 10800⟩],
     .once 670374000 14400, .once 717548400 10800,
     .yearly 1993 1995 [⟨3, .last 6, 82800, 14400⟩, ⟨9, .onOrAfter 6 22, 82800, 10800⟩],
     .yearly 1996 2010 [⟨3, .onOrAfter 6 24, 82800, 14400⟩, ⟨10, .onOrAfter 6 24, 82800, 10800⟩],
     .once 1301180400 14400, .once 1414274400 10800, .once 1540681200 14400,
     .once 1609020000 10800]⟩),
   ("Europe/Warsaw", ⟨5040, [.once (-1717032240) 3600, .once (-1693706400) 7200,
     .once (-1680483600) 3600, .once (-1663455600) 7200, .once (-1650150000) 3600,
     .once (-1632006000) 7200, .once (-1600473600) 10800, .once (-1587168000) 7200,
     .once (-1501725600) 3600, .once (-931734000) 7200, .once (-857257200) 3600,
     .once (-844556400) 7200, .once (-828226800) 3600, .once (-812502000) 7200,
     .once (-796608000) 3600, .once (-778726800) 7200, .once (-762660000) 3600,
     .once (-748486800) 7200, .once (-733273200) 3600, .once (-715215600) 7200,
     .once (-701910000) 3600, .once (-684975600) 7200, .once (-670460400) 3600,
     .once (-654130800) 7200, .once (-639010800) 3600, .once (-397094400) 7200,
     .once (-386812800) 3600, .once (-371088000) 7200, .once (-355363200) 3600,
     .once (-334195200) 7200, .once (-323308800) 3600, .once (-307584000) 7200,
     .once (-291859200) 3600,
     .yearly 1961 1964 [⟨5, .last 0, 0, 7200⟩, ⟨9, .last 6, 86400, 3600⟩],
     .yearly 1977 1980 [⟨4, .onOrAfter 0 1, 0, 7200⟩, ⟨9, .last 6, 86400, 3600⟩],
     .yearly 1981 1987 [⟨3, .last 0, 0, 7200⟩, ⟨9, .last 0, 0, 3600⟩],
     .yearly 1988 1995 [⟨3, .last 0, 3600, 7200⟩, ⟨9, .last 0, 3600, 3600⟩],
     .yearly 1996 2099 [⟨3, .last 0, 3600, 7200⟩, ⟨10, .last 0, 3600, 3600⟩]]⟩),
   ("Europe/Zurich", ⟨2048, [.once (-3675198848) 1786, .once (-2385246586) 3600,
     .yearly 1941 1942 [⟨5, .onOrAfter 1 1, 0, 7200⟩, ⟨10, .onOrAfter 1 1, 0, 3600⟩],
     .yearly 1981 1995 [⟨3, .last 0, 3600, 7200⟩, ⟨9, .last 0, 3600, 3600⟩],
     .yearly 1996 2099 [⟨3, .last 0, 3600, 7200⟩, ⟨10, .last 0, 3600, 3600⟩]]⟩)]

end HydroArchive.ZoneTable
