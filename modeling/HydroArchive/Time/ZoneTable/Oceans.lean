import HydroArchive.Time.ZoneHistory

/-!
# Zone table: the zones of Antarctica, Australia, the Atlantic and the Indian Ocean

Each zone with the offset of its first clock and all changes of its clock up to the year 2099.
-/

namespace HydroArchive.ZoneTable

/-- The clocks of the zones of Antarctica, Australia, the Atlantic and the Indian Ocean. -/
def oceans : List (String × ZoneHistory) :=
  [("Antarctica/Casey", ⟨0, [.once (-31536000) 28800, .once 1255802400 39600,
     .once 1267714800 28800, .once 1319738400 39600, .once 1329843600 28800,
     .once 1477065600 39600, .once 1520701200 28800, .once 1538856000 39600,
     .once 1552752000 28800, .once 1570129200 39600, .once 1583596800 28800,
     .once 1601740860 39600,
     .yearly 2021 2022 [⟨3, .onOrAfter 6 8, 46800, 28800⟩, ⟨10, .onOrAfter 6 1, 57660, 39600⟩],
     .once 1678291200 28800]⟩),
   ("Antarctica/Davis", ⟨0, [.once (-409190400) 25200, .once (-163062000) 0,
     .once (-28857600) 25200, .once 1255806000 18000, .once 1268251200 25200,
     .once 1319742000 18000, .once 1329854400 25200]⟩),
   ("Antarctica/Macquarie", ⟨0, [.once (-2214259200) 36000, .once (-1680508800) 39600,
     .once (-1665388800) 36000, .once (-1601719200) 0, .once (-687052800) 36000,
     .once (-71136000) 39600, .once (-55411200) 36000, .once (-37267200) 39600,
     .yearly 1969 1971 [⟨3, .onOrAfter 6 7, 57600, 36000⟩, ⟨10, .onOrAfter 6 24, 57600, 39600⟩],
     .once 67968000 36000, .once 89136000 39600,
     .yearly 1973 1981 [⟨3, .onOrAfter 0 1, -28800, 36000⟩, ⟨10, .onOrAfter 6 24, 57600, 39600⟩],
     .yearly 1982 1983 [⟨3, .last 6, 57600, 36000⟩, ⟨10, .last 6, 57600, 39600⟩],
     .yearly 1984 1985 [⟨3, .onOrAfter 6 1, 57600, 36000⟩, ⟨10, .last 6, 57600, 39600⟩],
     .once 510076800 36000, .once 530035200 39600,
     .yearly 1987 1990 [⟨3, .onOrAfter 6 13, 57600, 36000⟩, ⟨10, .onOrAfter 6 23, 57600, 39600⟩],
     .yearly 1991 1999 [⟨3, .last 6, 57600, 36000⟩, ⟨10, .onOrAfter 0 1, -28800, 39600⟩],
     .once 954000000 36000, .once 967305600 39600,
     .yearly 2001 2005 [⟨3, .onOrAfter 6 24, 57600, 36000⟩, ⟨10, .onOrAfter 6 1, 57600, 39600⟩],
     .once 1143907200 36000, .once 1159632000 39600, .once 1174752000 36000,
     .once 1191686400 39600,
     .yearly 2008 2009 [⟨4, .onOrAfter 6 1, 57600, 36000⟩, ⟨10, .onOrAfter 6 1, 57600, 39600⟩],
     .yearly 2011 2099 [⟨4, .onOrAfter 0 1, -28800, 36000⟩, ⟨10, .onOrAfter 0 1, -28800, 39600⟩]]⟩),
   ("Antarctica/Mawson", ⟨0, [.once (-501206400) 21600, .once 1255809600 18000]⟩),
   ("Antarctica/Palmer", ⟨0, [.once (-157766400) (-10800),
     .yearly 1965 1966 [⟨3, .on 1, 10800, -14400⟩, ⟨10, .on 15, 14400, -10800⟩],
     .yearly 1967 1969 [⟨4, .onOrAfter 0 1, 10800, -14400⟩, ⟨10, .onOrAfter 0 1, 14400, -10800⟩],
     .once 128142000 (-7200), .once 136605600 (-10800), .once 389070000 (-14400),
     .once 403070400 (-10800),
     .yearly 1983 1986 [⟨3, .onOrAfter 0 8, 10800, -14400⟩, ⟨10, .onOrAfter 0 8, 14400, -10800⟩],
     .once 545194800 (-14400), .once 560923200 (-10800),
     .yearly 1988 1989 [⟨3, .onOrAfter 0 8, 10800, -14400⟩, ⟨10, .onOrAfter 0 9, 14400, -10800⟩],
     .once 637124400 (-14400), .once 653457600 (-10800),
     .yearly 1991 1996 [⟨3, .onOrAfter 0 10, 10800, -14400⟩, ⟨10, .onOrAfter 0 9, 14400, -10800⟩],
     .once 859690800 (-14400), .once 876628800 (-10800), .once 889930800 (-14400),
     .once 906868800 (-10800), .once 923194800 (-14400), .once 939528000 (-10800),
     .yearly 2000 2007 [⟨3, .onOrAfter 0 8, 10800, -14400⟩, ⟨10, .onOrAfter 0 9, 14400, -10800⟩],
     .once 1206846000 (-14400), .once 1223784000 (-10800), .once 1237086000 (-14400),
     .once 1255233600 (-10800), .once 1270350000 (-14400), .once 1286683200 (-10800),
     .once 1304823600 (-14400), .once 1313899200 (-10800),
     .yearly 2012 2014 [⟨4, .last 0, 10800, -14400⟩, ⟨9, .onOrAfter 0 2, 14400, -10800⟩],
     .once 1463281200 (-14400), .once 1471147200 (-10800)]⟩),
   ("Antarctica/Rothera", ⟨0, [.once 218246400 (-10800)]⟩),
   ("Antarctica/Troll", ⟨0, [
     .yearly 2005 2099 [⟨3, .last 0, 3600, 7200⟩, ⟨10, .last 0, 3600, 0⟩]]⟩),
   ("Antarctica/Vostok", ⟨0, [.once (-380073600) 25200, .once 760035600 0,
     .once 783648000 25200, .once 1702839600 18000]⟩),
   ("Atlantic/Azores", ⟨-6160, [.once (-2713904240) (-6872), .once (-1830376800) (-7200),
     .once (-1689548400) (-3600), .once (-1677794400) (-7200),
     .yearly 1917 1921 [⟨3, .on 1, 7200, -3600⟩, ⟨10, .on 15, 3600, -7200⟩],
     .once (-1442444400) (-3600), .once (-1427670000) (-7200), .once (-1379286000) (-3600),
     .once (-1364770800) (-7200),
     .yearly 1927 1928 [⟨4, .onOrAfter 0 10, 3600, -3600⟩, ⟨10, .onOrAfter 0 1, 3600, -7200⟩],
     .once (-1284332400) (-3600), .once (-1269817200) (-7200), .once (-1221433200) (-3600),
     .once (-1206918000) (-7200), .once (-1191193200) (-3600), .once (-1175468400) (-7200),
     .once (-1127689200) (-3600), .once (-1111964400) (-7200), .once (-1096844400) (-3600),
     .once (-1080514800) (-7200), .once (-1063580400) (-3600), .once (-1049065200) (-7200),
     .once (-1033340400) (-3600), .once (-1017615600) (-7200), .once (-1002495600) (-3600),
     .once (-986166000) (-7200), .once (-969231600) (-3600), .once (-950482800) (-7200),
     .once (-942015600) (-3600), .once (-922489200) (-7200), .once (-906937200) (-3600),
     .once (-891126000) (-7200), .once (-877302000) (-3600), .once (-873676800) 0,
     .once (-864000000) (-3600), .once (-857948400) (-7200),
     .yearly 1943 1945 [⟨3, .onOrAfter 0 8, 3600, -3600⟩, ⟨4, .onOrAfter 0 17, 0, 0⟩,
       ⟨8, .last 0, 0, -3600⟩, ⟨10, .last 0, 3600, -7200⟩],
     .once (-749084400) (-3600), .once (-733359600) (-7200),
     .yearly 1947 1965 [⟨4, .onOrAfter 0 1, 14400, -3600⟩, ⟨10, .onOrAfter 0 1, 14400, -7200⟩],
     .once (-118267200) (-3600),
     .yearly 1982 1992 [⟨3, .last 0, 3600, 0⟩, ⟨9, .last 0, 3600, -3600⟩], .once 725421600 0,
     .once 733280400 3600, .once 740278800 0, .once 749005200 (-3600),
     .yearly 1994 1995 [⟨3, .last 0, 3600, 0⟩, ⟨9, .last 0, 3600, -3600⟩],
     .yearly 1996 2099 [⟨3, .last 0, 3600, 0⟩, ⟨10, .last 0, 3600, -3600⟩]]⟩),
   ("Atlantic/Bermuda", ⟨-15558, [.once (-1664307642) (-11958), .once (-1648932042) (-15558),
     .once (-1632080442) (-11958), .once (-1618692042) (-15558), .once (-1262281242) (-14400),
     .once (-882727200) (-10800), .once (-858538800) (-14400), .once (-845229600) (-10800),
     .once (-825879600) (-14400),
     .yearly 1944 1945 [⟨3, .onOrAfter 0 8, 21600, -10800⟩, ⟨11, .onOrAfter 0 1, 18000, -14400⟩],
     .once (-713988000) (-10800), .once (-703710000) (-14400),
     .yearly 1948 1952 [⟨5, .onOrAfter 0 22, 21600, -10800⟩, ⟨9, .onOrAfter 0 1, 18000, -14400⟩],
     .once (-429127200) (-10800), .once (-415825200) (-14400),
     .yearly 1974 1986 [⟨4, .last 0, 21600, -10800⟩, ⟨10, .last 0, 18000, -14400⟩],
     .yearly 1987 2006 [⟨4, .onOrAfter 0 1, 21600, -10800⟩, ⟨10, .last 0, 18000, -14400⟩],
     .yearly 2007 2099 [⟨3, .onOrAfter 0 8, 21600, -10800⟩, ⟨11, .onOrAfter 0 1, 18000, -14400⟩]]⟩),
   ("Atlantic/Canary", ⟨-3696, [.once (-1509663504) (-3600), .once (-733874400) 0,
     .once 323827200 3600, .once 338950800 0,
     .yearly 1981 1995 [⟨3, .last 0, 3600, 3600⟩, ⟨9, .last 0, 3600, 0⟩],
     .yearly 1996 2099 [⟨3, .last 0, 3600, 3600⟩, ⟨10, .last 0, 3600, 0⟩]]⟩),
   ("Atlantic/Cape_Verde", ⟨-5644, [.once (-1830376800) (-7200), .once (-862610400) (-3600),
     .once (-764118000) (-7200), .once 186120000 (-3600)]⟩),
   ("Atlantic/Faroe", ⟨-1624, [.once (-1955748776) 0,
     .yearly 1981 1995 [⟨3, .last 0, 3600, 3600⟩, ⟨9, .last 0, 3600, 0⟩],
     .yearly 1996 2099 [⟨3, .last 0, 3600, 3600⟩, ⟨10, .last 0, 3600, 0⟩]]⟩),
   ("Atlantic/Madeira", ⟨-4056, [.once (-1830380400) (-3600), .once (-1689552000) 0,
     .once (-1677798000) (-3600),
     .yearly 1917 1921 [⟨3, .on 1, 3600, 0⟩, ⟨10, .on 15, 0, -3600⟩], .once (-1442448000) 0,
     .once (-1427673600) (-3600), .once (-1379289600) 0, .once (-1364774400) (-3600),
     .yearly 1927 1928 [⟨4, .onOrAfter 0 10, 0, 0⟩, ⟨10, .onOrAfter 0 1, 0, -3600⟩],
     .once (-1284336000) 0, .once (-1269820800) (-3600), .once (-1221436800) 0,
     .once (-1206921600) (-3600), .once (-1191196800) 0, .once (-1175472000) (-3600),
     .once (-1127692800) 0, .once (-1111968000) (-3600), .once (-1096848000) 0,
     .once (-1080518400) (-3600), .once (-1063584000) 0, .once (-1049068800) (-3600),
     .once (-1033344000) 0, .once (-1017619200) (-3600), .once (-1002499200) 0,
     .once (-986169600) (-3600), .once (-969235200) 0, .once (-950486400) (-3600),
     .once (-942019200) 0, .once (-922492800) (-3600), .once (-906940800) 0,
     .once (-891129600) (-3600), .once (-877305600) 0, .once (-873680400) 3600,
     .once (-864003600) 0, .once (-857952000) (-3600),
     .yearly 1943 1945 [⟨3, .onOrAfter 0 8, 0, 0⟩, ⟨4, .onOrAfter 6 16, 82800, 3600⟩,
       ⟨8, .last 6, 82800, 0⟩, ⟨10, .last 0, 0, -3600⟩],
     .once (-749088000) 0, .once (-733363200) (-3600),
     .yearly 1947 1965 [⟨4, .onOrAfter 0 1, 10800, 0⟩, ⟨10, .onOrAfter 0 1, 10800, -3600⟩],
     .once (-118270800) 0, .once 386726400 3600, .once 401846400 0,
     .yearly 1983 1985 [⟨3, .last 0, 0, 3600⟩, ⟨9, .last 0, 0, 0⟩], .once 512524800 3600,
     .once 528253200 0, .yearly 1987 1995 [⟨3, .last 0, 3600, 3600⟩, ⟨9, .last 0, 3600, 0⟩],
     .yearly 1996 2099 [⟨3, .last 0, 3600, 3600⟩, ⟨10, .last 0, 3600, 0⟩]]⟩),
   ("Atlantic/South_Georgia", ⟨-8768, [.once (-2524512832) (-7200)]⟩),
   ("Atlantic/Stanley", ⟨-13884, [.once (-1824235716) (-14400), .once (-1018209600) (-10800),
     .yearly 1938 1942 [⟨3, .onOrAfter 0 18, 10800, -14400⟩, ⟨9, .last 6, 100800, -10800⟩],
     .once (-852066000) (-14400), .once 420609600 (-10800), .once 433306800 (-7200),
     .once 452052000 (-10800), .once 464151600 (-7200), .once 483501600 (-10800),
     .yearly 1986 2000 [⟨4, .onOrAfter 0 16, 10800, -14400⟩, ⟨9, .onOrAfter 0 9, 14400, -10800⟩],
     .yearly 2001 2010 [⟨4, .onOrAfter 0 15, 18000, -14400⟩, ⟨9, .onOrAfter 0 1, 21600, -10800⟩]]⟩),
   ("Australia/Adelaide", ⟨33260, [.once (-2364110060) 32400, .once (-2230189200) 34200,
     .once (-1672558200) 37800, .once (-1665387000) 34200, .once (-883639800) 37800,
     .once (-876123000) 34200, .once (-860398200) 37800, .once (-844673400) 34200,
     .once (-828343800) 37800, .once (-813223800) 34200, .once 57688200 37800,
     .once 67969800 34200, .once 89137800 37800,
     .yearly 1973 1985 [⟨3, .onOrAfter 0 1, -27000, 34200⟩, ⟨10, .onOrAfter 6 24, 59400, 37800⟩],
     .yearly 1986 1987 [⟨3, .onOrAfter 6 10, 59400, 34200⟩, ⟨10, .onOrAfter 6 18, 59400, 37800⟩],
     .yearly 1988 1990 [⟨3, .onOrAfter 6 15, 59400, 34200⟩, ⟨10, .last 6, 59400, 37800⟩],
     .once 667931400 34200, .once 688494600 37800, .once 701195400 34200, .once 719944200 37800,
     .once 731435400 34200, .once 751998600 37800,
     .yearly 1994 1995 [⟨3, .onOrAfter 6 19, 59400, 34200⟩, ⟨10, .last 6, 59400, 37800⟩],
     .yearly 1996 2005 [⟨3, .onOrAfter 6 24, 59400, 34200⟩, ⟨10, .onOrAfter 6 24, 59400, 37800⟩],
     .once 1143909000 34200, .once 1162053000 37800, .once 1174753800 34200,
     .once 1193502600 37800,
     .yearly 2008 2099 [⟨4, .onOrAfter 0 1, -27000, 34200⟩, ⟨10, .onOrAfter 0 1, -27000, 37800⟩]]⟩),
   ("Australia/Brisbane", ⟨36728, [.once (-2366791928) 36000, .once (-1672560000) 39600,
     .once (-1665388800) 36000, .once (-883641600) 39600, .once (-876124800) 36000,
     .once (-860400000) 39600, .once (-844675200) 36000, .once (-828345600) 39600,
     .once (-813225600) 36000, .once 57686400 39600, .once 67968000 36000,
     .once 625593600 39600,
     .yearly 1990 1991 [⟨3, .onOrAfter 6 1, 57600, 36000⟩, ⟨10, .last 6, 57600, 39600⟩],
     .once 699379200 36000]⟩),
   ("Australia/Broken_Hill", ⟨33948, [.once (-2364110748) 36000, .once (-2314951200) 32400,
     .once (-2230189200) 34200, .once (-1672558200) 37800, .once (-1665387000) 34200,
     .once (-883639800) 37800, .once (-876123000) 34200, .once (-860398200) 37800,
     .once (-844673400) 34200, .once (-828343800) 37800, .once (-813223800) 34200,
     .once 57688200 37800, .once 67969800 34200, .once 89137800 37800,
     .yearly 1973 1981 [⟨3, .onOrAfter 0 1, -27000, 34200⟩, ⟨10, .onOrAfter 6 24, 59400, 37800⟩],
     .once 386699400 34200, .once 404843400 37800,
     .yearly 1983 1985 [⟨3, .onOrAfter 6 1, 59400, 34200⟩, ⟨10, .last 6, 59400, 37800⟩],
     .yearly 1986 1987 [⟨3, .onOrAfter 6 10, 59400, 34200⟩, ⟨10, .onOrAfter 6 18, 59400, 37800⟩],
     .yearly 1988 1989 [⟨3, .onOrAfter 6 15, 59400, 34200⟩, ⟨10, .last 6, 59400, 37800⟩],
     .yearly 1990 1995 [⟨3, .onOrAfter 0 1, -27000, 34200⟩, ⟨10, .onOrAfter 6 24, 59400, 37800⟩],
     .yearly 1996 2005 [⟨3, .onOrAfter 6 24, 59400, 34200⟩, ⟨10, .onOrAfter 6 24, 59400, 37800⟩],
     .once 1143909000 34200, .once 1162053000 37800, .once 1174753800 34200,
     .once 1193502600 37800,
     .yearly 2008 2099 [⟨4, .onOrAfter 0 1, -27000, 34200⟩, ⟨10, .onOrAfter 0 1, -27000, 37800⟩]]⟩),
   ("Australia/Darwin", ⟨31400, [.once (-2364108200) 32400, .once (-2230189200) 34200,
     .once (-1672558200) 37800, .once (-1665387000) 34200, .once (-883639800) 37800,
     .once (-876123000) 34200, .once (-860398200) 37800, .once (-844673400) 34200,
     .once (-828343800) 37800, .once (-813223800) 34200]⟩),
   ("Australia/Eucla", ⟨30928, [.once (-2337928528) 31500, .once (-1672555500) 35100,
     .once (-1665384300) 31500, .once (-883637100) 35100, .once (-876120300) 31500,
     .once (-860395500) 35100, .once (-844670700) 31500, .once 152039700 35100,
     .once 162926100 31500, .once 436295700 35100, .once 447182100 31500, .once 690311700 35100,
     .once 699383700 31500, .once 1165079700 35100,
     .yearly 2007 2008 [⟨3, .onOrAfter 6 23, 62100, 31500⟩, ⟨10, .last 6, 62100, 35100⟩],
     .once 1238260500 31500]⟩),
   ("Australia/Hobart", ⟨35356, [.once (-2345795356) 36000, .once (-1680508800) 39600,
     .once (-1665388800) 36000, .once (-1646640000) 39600, .once (-1635753600) 36000,
     .once (-1615190400) 39600, .once (-1604304000) 36000, .once (-883641600) 39600,
     .once (-876124800) 36000, .once (-860400000) 39600, .once (-844675200) 36000,
     .once (-828345600) 39600, .once (-813225600) 36000, .once (-71136000) 39600,
     .once (-55411200) 36000, .once (-37267200) 39600,
     .yearly 1969 1971 [⟨3, .onOrAfter 6 7, 57600, 36000⟩, ⟨10, .onOrAfter 6 24, 57600, 39600⟩],
     .once 67968000 36000, .once 89136000 39600,
     .yearly 1973 1981 [⟨3, .onOrAfter 0 1, -28800, 36000⟩, ⟨10, .onOrAfter 6 24, 57600, 39600⟩],
     .yearly 1982 1983 [⟨3, .last 6, 57600, 36000⟩, ⟨10, .last 6, 57600, 39600⟩],
     .yearly 1984 1985 [⟨3, .onOrAfter 6 1, 57600, 36000⟩, ⟨10, .last 6, 57600, 39600⟩],
     .once 510076800 36000, .once 530035200 39600,
     .yearly 1987 1990 [⟨3, .onOrAfter 6 13, 57600, 36000⟩, ⟨10, .onOrAfter 6 23, 57600, 39600⟩],
     .yearly 1991 1999 [⟨3, .last 6, 57600, 36000⟩, ⟨10, .onOrAfter 0 1, -28800, 39600⟩],
     .once 954000000 36000, .once 967305600 39600,
     .yearly 2001 2005 [⟨3, .onOrAfter 6 24, 57600, 36000⟩, ⟨10, .onOrAfter 6 1, 57600, 39600⟩],
     .once 1143907200 36000, .once 1159632000 39600, .once 1174752000 36000,
     .once 1191686400 39600,
     .yearly 2008 2099 [⟨4, .onOrAfter 0 1, -28800, 36000⟩, ⟨10, .onOrAfter 0 1, -28800, 39600⟩]]⟩),
   ("Australia/Lindeman", ⟨35756, [.once (-2366790956) 36000, .once (-1672560000) 39600,
     .once (-1665388800) 36000, .once (-883641600) 39600, .once (-876124800) 36000,
     .once (-860400000) 39600, .once (-844675200) 36000, .once (-828345600) 39600,
     .once (-813225600) 36000, .once 57686400 39600, .once 67968000 36000,
     .once 625593600 39600,
     .yearly 1990 1993 [⟨3, .onOrAfter 0 1, -28800, 36000⟩, ⟨10, .onOrAfter 6 24, 57600, 39600⟩],
     .once 762883200 36000]⟩),
   ("Australia/Lord_Howe", ⟨38180, [.once (-2364114980) 36000, .once 352216800 37800,
     .once 372785400 41400,
     .yearly 1982 1984 [⟨3, .onOrAfter 6 1, 52200, 37800⟩, ⟨10, .last 6, 55800, 41400⟩],
     .once 478621800 37800, .once 499188600 39600,
     .yearly 1986 1987 [⟨3, .onOrAfter 6 10, 54000, 37800⟩, ⟨10, .onOrAfter 6 18, 55800, 39600⟩],
     .yearly 1988 1989 [⟨3, .onOrAfter 6 15, 54000, 37800⟩, ⟨10, .last 6, 55800, 39600⟩],
     .yearly 1990 1995 [⟨3, .onOrAfter 0 1, -32400, 37800⟩, ⟨10, .onOrAfter 6 24, 55800, 39600⟩],
     .yearly 1996 1999 [⟨3, .last 6, 54000, 37800⟩, ⟨10, .onOrAfter 6 24, 55800, 39600⟩],
     .once 953996400 37800, .once 967303800 39600,
     .yearly 2001 2005 [⟨3, .onOrAfter 6 24, 54000, 37800⟩, ⟨10, .last 6, 55800, 39600⟩],
     .once 1143903600 37800, .once 1162049400 39600, .once 1174748400 37800,
     .once 1193499000 39600,
     .yearly 2008 2099 [⟨4, .onOrAfter 0 1, -32400, 37800⟩, ⟨10, .onOrAfter 0 1, -30600, 39600⟩]]⟩),
   ("Australia/Melbourne", ⟨34792, [.once (-2364111592) 36000, .once (-1672560000) 39600,
     .once (-1665388800) 36000, .once (-883641600) 39600, .once (-876124800) 36000,
     .once (-860400000) 39600, .once (-844675200) 36000, .once (-828345600) 39600,
     .once (-813225600) 36000, .once 57686400 39600, .once 67968000 36000, .once 89136000 39600,
     .yearly 1973 1985 [⟨3, .onOrAfter 0 1, -28800, 36000⟩, ⟨10, .onOrAfter 6 24, 57600, 39600⟩],
     .yearly 1986 1987 [⟨3, .onOrAfter 6 10, 57600, 36000⟩, ⟨10, .onOrAfter 6 15, 57600, 39600⟩],
     .yearly 1988 1990 [⟨3, .onOrAfter 6 15, 57600, 36000⟩, ⟨10, .last 6, 57600, 39600⟩],
     .yearly 1991 1994 [⟨3, .onOrAfter 0 1, -28800, 36000⟩, ⟨10, .onOrAfter 6 24, 57600, 39600⟩],
     .yearly 1995 1999 [⟨3, .last 6, 57600, 36000⟩, ⟨10, .onOrAfter 6 24, 57600, 39600⟩],
     .once 954000000 36000, .once 967305600 39600,
     .yearly 2001 2005 [⟨3, .onOrAfter 6 24, 57600, 36000⟩, ⟨10, .last 6, 57600, 39600⟩],
     .once 1143907200 36000, .once 1162051200 39600, .once 1174752000 36000,
     .once 1193500800 39600,
     .yearly 2008 2099 [⟨4, .onOrAfter 0 1, -28800, 36000⟩, ⟨10, .onOrAfter 0 1, -28800, 39600⟩]]⟩),
   ("Australia/Perth", ⟨27804, [.once (-2337925404) 28800, .once (-1672552800) 32400,
     .once (-1665381600) 28800, .once (-883634400) 32400, .once (-876117600) 28800,
     .once (-860392800) 32400, .once (-844668000) 28800, .once 152042400 32400,
     .once 162928800 28800, .once 436298400 32400, .once 447184800 28800, .once 690314400 32400,
     .once 699386400 28800, .once 1165082400 32400,
     .yearly 2007 2008 [⟨3, .onOrAfter 6 23, 64800, 28800⟩, ⟨10, .last 6, 64800, 32400⟩],
     .once 1238263200 28800]⟩),
   ("Australia/Sydney", ⟨36292, [.once (-2364113092) 36000, .once (-1672560000) 39600,
     .once (-1665388800) 36000, .once (-883641600) 39600, .once (-876124800) 36000,
     .once (-860400000) 39600, .once (-844675200) 36000, .once (-828345600) 39600,
     .once (-813225600) 36000, .once 57686400 39600, .once 67968000 36000, .once 89136000 39600,
     .yearly 1973 1981 [⟨3, .onOrAfter 0 1, -28800, 36000⟩, ⟨10, .onOrAfter 6 24, 57600, 39600⟩],
     .once 386697600 36000, .once 404841600 39600,
     .yearly 1983 1985 [⟨3, .onOrAfter 6 1, 57600, 36000⟩, ⟨10, .last 6, 57600, 39600⟩],
     .yearly 1986 1987 [⟨3, .onOrAfter 6 10, 57600, 36000⟩, ⟨10, .onOrAfter 6 18, 57600, 39600⟩],
     .yearly 1988 1989 [⟨3, .onOrAfter 6 15, 57600, 36000⟩, ⟨10, .last 6, 57600, 39600⟩],
     .yearly 1990 1995 [⟨3, .onOrAfter 0 1, -28800, 36000⟩, ⟨10, .onOrAfter 6 24, 57600, 39600⟩],
     .yearly 1996 1999 [⟨3, .last 6, 57600, 36000⟩, ⟨10, .onOrAfter 6 24, 57600, 39600⟩],
     .once 954000000 36000, .once 967305600 39600,
     .yearly 2001 2005 [⟨3, .onOrAfter 6 24, 57600, 36000⟩, ⟨10, .last 6, 57600, 39600⟩],
     .once 1143907200 36000, .once 1162051200 39600, .once 1174752000 36000,
     .once 1193500800 39600,
     .yearly 2008 2099 [⟨4, .onOrAfter 0 1, -28800, 36000⟩, ⟨10, .onOrAfter 0 1, -28800, 39600⟩]]⟩),
   ("Indian/Chagos", ⟨17380, [.once (-1988167780) 18000, .once 820436400 21600]⟩),
   ("Indian/Maldives", ⟨17640, [.once (-315636840) 18000]⟩),
   ("Indian/Mauritius", ⟨13800, [.once (-1988164200) 14400, .once 403041600 18000,
     .once 417034800 14400, .once 1224972000 18000, .once 1238274000 14400]⟩)]

end HydroArchive.ZoneTable
