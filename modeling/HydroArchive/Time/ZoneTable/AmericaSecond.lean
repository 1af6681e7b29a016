import HydroArchive.Time.ZoneHistory

/-!
# Zone table: the zones of America, from La Paz to Yakutat

Each zone with the offset of its first clock and all changes of its clock up to the year 2099.
-/

namespace HydroArchive.ZoneTable

/-- The clocks of the zones of America, from La Paz to Yakutat. -/
def americaSecond : List (String × ZoneHistory) :=
  [("America/La_Paz", ⟨-16356, [.once (-1205954844) (-12756), .once (-1192307244) (-14400)]⟩),
   ("America/Lima", ⟨-18492, [.once (-2524503108) (-18516), .once (-1938538284) (-18000),
     .once (-1009825200) (-14400), .once (-1002052800) (-18000), .once (-986756400) (-14400),
     .once (-971035200) (-18000), .once (-955306800) (-14400), .once (-939585600) (-18000),
     .yearly 1986 1987 [⟨1, .on 1, 18000, -14400⟩, ⟨4, .on 1, 14400, -18000⟩],
     .once 631170000 (-14400), .once 638942400 (-18000), .once 757400400 (-14400),
     .once 765172800 (-18000)]⟩),
   ("America/Los_Angeles", ⟨-28378, [.once (-2717640000) (-28800),
     .yearly 1918 1919 [⟨3, .last 0, 36000, -25200⟩, ⟨10, .last 0, 32400, -28800⟩],
     .once (-880207200) (-25200), .once (-765385200) (-28800), .once (-687967140) (-25200),
     .once (-662655600) (-28800),
     .yearly 1950 1961 [⟨4, .last 0, 32400, -25200⟩, ⟨9, .last 0, 32400, -28800⟩],
     .yearly 1962 1966 [⟨4, .last 0, 32400, -25200⟩, ⟨10, .last 0, 32400, -28800⟩],
     .yearly 1967 1973 [⟨4, .last 0, 36000, -25200⟩, ⟨10, .last 0, 32400, -28800⟩],
     .once 126698400 (-25200), .once 152096400 (-28800), .once 162381600 (-25200),
     .once 183546000 (-28800),
     .yearly 1976 1986 [⟨4, .last 0, 36000, -25200⟩, ⟨10, .last 0, 32400, -28800⟩],
     .yearly 1987 2006 [⟨4, .onOrAfter 0 1, 36000, -25200⟩, ⟨10, .last 0, 32400, -28800⟩],
     .yearly 2007 2099 [⟨3, .onOrAfter 0 8, 36000, -25200⟩, ⟨11, .onOrAfter 0 1, 32400, -28800⟩]]⟩),
   ("America/Maceio", ⟨-8572, [.once (-1767217028) (-10800), .once (-1206957600) (-7200),
     .once (-1191362400) (-10800), .once (-1175374800) (-7200), .once (-1159826400) (-10800),
     .once (-633819600) (-7200), .once (-622069200) (-10800), .once (-602283600) (-7200),
     .yearly 1951 1952 [⟨4, .on 1, 7200, -10800⟩, ⟨12, .on 1, 10800, -7200⟩],
     .once (-531352800) (-10800), .once (-191365200) (-7200), .once (-184197600) (-10800),
     .once (-155163600) (-7200), .once (-150069600) (-10800), .once (-128898000) (-7200),
     .yearly 1966 1967 [⟨3, .on 1, 7200, -10800⟩, ⟨11, .on 1, 10800, -7200⟩],
     .once (-57967200) (-10800), .once 499748400 (-7200), .once 511236000 (-10800),
     .once 530593200 (-7200), .once 540266400 (-10800), .once 562129200 (-7200),
     .once 571197600 (-10800), .once 592974000 (-7200), .once 602042400 (-10800),
     .once 624423600 (-7200), .once 634701600 (-10800), .once 813726000 (-7200),
     .once 824004000 (-10800), .once 938919600 (-7200), .once 951616800 (-10800),
     .once 970974000 (-7200), .once 972180000 (-10800), .once 1003028400 (-7200),
     .once 1013911200 (-10800)]⟩),
   ("America/Managua", ⟨-20708, [.once (-2524500892) (-20712), .once (-1121105688) (-21600),
     .once 105084000 (-18000), .once 161758800 (-21600),
     .yearly 1979 1980 [⟨3, .onOrAfter 0 15, 21600, -18000⟩, ⟨6, .onOrAfter 1 22, 18000, -21600⟩],
     .once 694260000 (-18000), .once 717310800 (-21600), .once 725868000 (-18000),
     .once 852094800 (-21600), .once 1113112800 (-18000), .once 1128229200 (-21600),
     .once 1146384000 (-18000), .once 1159682400 (-21600)]⟩),
   ("America/Manaus", ⟨-14404, [.once (-1767211196) (-14400), .once (-1206954000) (-10800),
     .once (-1191358800) (-14400), .once (-1175371200) (-10800), .once (-1159822800) (-14400),
     .once (-633816000) (-10800), .once (-622065600) (-14400), .once (-602280000) (-10800),
     .yearly 1951 1952 [⟨4, .on 1, 10800, -14400⟩, ⟨12, .on 1, 14400, -10800⟩],
     .once (-531349200) (-14400), .once (-191361600) (-10800), .once (-184194000) (-14400),
     .once (-155160000) (-10800), .once (-150066000) (-14400), .once (-128894400) (-10800),
     .yearly 1966 1967 [⟨3, .on 1, 10800, -14400⟩, ⟨11, .on 1, 14400, -10800⟩],
     .once (-57963600) (-14400), .once 499752000 (-10800), .once 511239600 (-14400),
     .once 530596800 (-10800), .once 540270000 (-14400), .once 562132800 (-10800),
     .once 571201200 (-14400), .once 750830400 (-10800), .once 761713200 (-14400)]⟩),
   ("America/Martinique", ⟨-14660, [.once (-1851537340) (-14400), .once 323841600 (-10800),
     .once 338958000 (-14400)]⟩),
   ("America/Matamoros", ⟨-23400, [.once (-1514743200) (-21600), .once 576057600 (-18000),
     .once 594198000 (-21600),
     .yearly 1996 2000 [⟨4, .onOrAfter 0 1, 28800, -18000⟩, ⟨10, .last 0, 25200, -21600⟩],
     .once 989136000 (-18000), .once 1001833200 (-21600),
     .yearly 2002 2009 [⟨4, .onOrAfter 0 1, 28800, -18000⟩, ⟨10, .last 0, 25200, -21600⟩],
     .yearly 2010 2099 [⟨3, .onOrAfter 0 8, 28800, -18000⟩, ⟨11, .onOrAfter 0 1, 25200, -21600⟩]]⟩),
   ("America/Mazatlan", ⟨-25540, [.once (-1514739600) (-25200), .once (-1343149200) (-21600),
     .once (-1234807200) (-25200), .once (-1220461200) (-21600), .once (-1207159200) (-25200),
     .once (-1191344400) (-21600), .once (-873828000) (-25200),
     .yearly 1996 2000 [⟨4, .onOrAfter 0 1, 32400, -21600⟩, ⟨10, .last 0, 28800, -25200⟩],
     .once 989139600 (-21600), .once 1001836800 (-25200),
     .yearly 2002 2022 [⟨4, .onOrAfter 0 1, 32400, -21600⟩, ⟨10, .last 0, 28800, -25200⟩]]⟩),
   ("America/Menominee", ⟨-21027, [.once (-2659759773) (-21600),
     .yearly 1918 1919 [⟨3, .last 0, 28800, -18000⟩, ⟨10, .last 0, 25200, -21600⟩],
     .once (-880214400) (-18000), .once (-765392400) (-21600), .once (-747244800) (-18000),
     .once (-733942800) (-21600), .once (-116438400) (-18000), .once (-100112400) (-21600),
     .once (-21484800) (-18000), .once 120639600 (-21600), .once 126691200 (-18000),
     .once 152089200 (-21600), .once 162374400 (-18000), .once 183538800 (-21600),
     .yearly 1976 1986 [⟨4, .last 0, 28800, -18000⟩, ⟨10, .last 0, 25200, -21600⟩],
     .yearly 1987 2006 [⟨4, .onOrAfter 0 1, 28800, -18000⟩, ⟨10, .last 0, 25200, -21600⟩],
     .yearly 2007 2099 [⟨3, .onOrAfter 0 8, 28800, -18000⟩, ⟨11, .onOrAfter 0 1, 25200, -21600⟩]]⟩),
   ("America/Merida", ⟨-21508, [.once (-1514743200) (-21600), .once 378201600 (-18000),
     .once 405068400 (-21600),
     .yearly 1996 2000 [⟨4, .onOrAfter 0 1, 28800, -18000⟩, ⟨10, .last 0, 25200, -21600⟩],
     .once 989136000 (-18000), .once 1001833200 (-21600),
     .yearly 2002 2022 [⟨4, .onOrAfter 0 1, 28800, -18000⟩, ⟨10, .last 0, 25200, -21600⟩]]⟩),
   ("America/Metlakatla", ⟨54822, [.once (-3225223727) (-31578), .once (-2188955622) (-28800),
     .once (-880207200) (-25200), .once (-765385200) (-28800),
     .yearly 1969 1973 [⟨4, .last 0, 36000, -25200⟩, ⟨10, .last 0, 32400, -28800⟩],
     .once 126698400 (-25200), .once 152096400 (-28800), .once 162381600 (-25200),
     .once 183546000 (-28800),
     .yearly 1976 1983 [⟨4, .last 0, 36000, -25200⟩, ⟨10, .last 0, 32400, -28800⟩],
     .once 1446372000 (-32400),
     .yearly 2016 2017 [⟨3, .onOrAfter 0 8, 39600, -28800⟩, ⟨11, .onOrAfter 0 1, 36000, -32400⟩],
     .once 1520766000 (-28800), .once 1547978400 (-32400),
     .yearly 2019 2099 [⟨3, .onOrAfter 0 8, 39600, -28800⟩, ⟨11, .onOrAfter 0 1, 36000, -32400⟩]]⟩),
   ("America/Mexico_City", ⟨-23796, [.once (-1514739600) (-25200), .once (-1343149200) (-21600),
     .once (-1234807200) (-25200), .once (-1220461200) (-21600), .once (-1207159200) (-25200),
     .once (-1191344400) (-21600), .once (-975261600) (-18000), .once (-963169200) (-21600),
     .once (-917114400) (-18000), .once (-907354800) (-21600), .once (-821901600) (-18000),
     .once (-810068400) (-21600), .once (-627501600) (-18000), .once (-612990000) (-21600),
     .yearly 1996 2000 [⟨4, .onOrAfter 0 1, 28800, -18000⟩, ⟨10, .last 0, 25200, -21600⟩],
     .once 989136000 (-18000), .once 1001833200 (-21600),
     .yearly 2002 2022 [⟨4, .onOrAfter 0 1, 28800, -18000⟩, ⟨10, .last 0, 25200, -21600⟩]]⟩),
   ("America/Miquelon", ⟨-13480, [.once (-1847650520) (-14400), .once 326001600 (-10800),
     .yearly 1987 2006 [⟨4, .onOrAfter 0 1, 18000, -7200⟩, ⟨10, .last 0, 14400, -10800⟩],
     .yearly 2007 2099 [⟨3, .onOrAfter 0 8, 18000, -7200⟩, ⟨11, .onOrAfter 0 1, 14400, -10800⟩]]⟩),
   ("America/Moncton", ⟨-15548, [.once (-2715882052) (-18000), .once (-2131642800) (-14400),
     .once (-1632074400) (-10800), .once (-1615143600) (-14400),
     .yearly 1933 1938 [⟨6, .onOrAfter 0 5, 18000, -10800⟩, ⟨9, .onOrAfter 0 4, 14400, -14400⟩],
     .once (-965674800) (-10800), .once (-955396800) (-14400), .once (-934743600) (-10800),
     .once (-923947200) (-14400), .once (-904503600) (-10800), .once (-891892800) (-14400),
     .once (-880221600) (-10800), .once (-765399600) (-14400),
     .yearly 1946 1956 [⟨4, .last 0, 21600, -10800⟩, ⟨9, .last 0, 18000, -14400⟩],
     .yearly 1957 1972 [⟨4, .last 0, 21600, -10800⟩, ⟨10, .last 0, 18000, -14400⟩],
     .yearly 1974 1986 [⟨4, .last 0, 21600, -10800⟩, ⟨10, .last 0, 18000, -14400⟩],
     .yearly 1987 1992 [⟨4, .onOrAfter 0 1, 21600, -10800⟩, ⟨10, .last 0, 18000, -14400⟩],
     .yearly 1993 2006 [⟨4, .onOrAfter 0 1, 14460, -10800⟩, ⟨10, .last 0, 10860, -14400⟩],
     .yearly 2007 2099 [⟨3, .onOrAfter 0 8, 21600, -10800⟩, ⟨11, .onOrAfter 0 1, 18000, -14400⟩]]⟩),
   ("America/Monterrey", ⟨-24076, [.once (-1514743200) (-25200), .once (-1343149200) (-21600),
     .once (-1234807200) (-25200), .once (-1220461200) (-21600), .once (-1207159200) (-25200),
     .once (-1191344400) (-21600), .once 576057600 (-18000), .once 594198000 (-21600),
     .yearly 1996 2000 [⟨4, .onOrAfter 0 1, 28800, -18000⟩, ⟨10, .last 0, 25200, -21600⟩],
     .once 989136000 (-18000), .once 1001833200 (-21600),
     .yearly 2002 2022 [⟨4, .onOrAfter 0 1, 28800, -18000⟩, ⟨10, .last 0, 25200, -21600⟩]]⟩),
   ("America/Montevideo", ⟨-13491, [.once (-1567455309) (-14400), .once (-1459627200) (-10800),
     .yearly 1924 1925 [⟨4, .on 1, 10800, -12600⟩, ⟨10, .on 1, 12600, -10800⟩],
     .once (-1380747600) (-12600), .once (-1141590600) (-10800),
     .yearly 1934 1938 [⟨3, .last 5, 183600, -12600⟩, ⟨10, .last 0, 12600, -10800⟩],
     .once (-971038800) (-12600), .once (-954707400) (-10800), .once (-938984400) (-12600),
     .once (-920838600) (-10800), .once (-907534800) (-12600), .once (-896819400) (-10800),
     .once (-853621200) (-9000), .once (-845847000) (-10800), .once (-334789200) (-9000),
     .once (-319671000) (-10800), .once (-314226000) (-7200), .once (-309996000) (-10800),
     .once (-149720400) (-7200), .once (-134604000) (-10800), .once (-50446800) (-9000),
     .once (-34205400) (-10800), .once 9860400 (-7200), .once 14176800 (-10800),
     .once 72846000 (-7200), .once 80100000 (-10800), .once 127278000 (-5400),
     .once 132111000 (-9000), .once 147234600 (-10800), .once 156913200 (-7200),
     .once 165376800 (-10800), .once 219812400 (-7200), .once 226461600 (-10800),
     .once 250052400 (-7200), .once 257911200 (-10800), .once 282711600 (-7200),
     .once 289360800 (-10800), .once 294202800 (-7200), .once 322020000 (-10800),
     .once 566449200 (-7200), .once 573012000 (-10800), .once 597812400 (-7200),
     .once 605066400 (-10800), .once 625633200 (-7200), .once 635911200 (-10800),
     .once 656478000 (-7200), .once 667965600 (-10800), .once 688532400 (-7200),
     .once 699415200 (-10800), .once 719377200 (-7200), .once 730864800 (-10800),
     .once 1095562800 (-7200), .once 1111896000 (-10800), .once 1128834000 (-7200),
     .yearly 2006 2014 [⟨3, .onOrAfter 0 8, 14400, -10800⟩, ⟨10, .onOrAfter 0 1, 18000, -7200⟩],
     .once 1425787200 (-10800)]⟩),
   ("America/New_York", ⟨-17762, [.once (-2717650800) (-18000),
     .yearly 1918 1920 [⟨3, .last 0, 25200, -14400⟩, ⟨10, .last 0, 21600, -18000⟩],
     .yearly 1921 1941 [⟨4, .last 0, 25200, -14400⟩, ⟨9, .last 0, 21600, -18000⟩],
     .once (-880218000) (-14400), .once (-765396000) (-18000),
     .yearly 1946 1954 [⟨4, .last 0, 25200, -14400⟩, ⟨9, .last 0, 21600, -18000⟩],
     .yearly 1955 1973 [⟨4, .last 0, 25200, -14400⟩, ⟨10, .last 0, 21600, -18000⟩],
     .once 126687600 (-14400), .once 152085600 (-18000), .once 162370800 (-14400),
     .once 183535200 (-18000),
     .yearly 1976 1986 [⟨4, .last 0, 25200, -14400⟩, ⟨10, .last 0, 21600, -18000⟩],
     .yearly 1987 2006 [⟨4, .onOrAfter 0 1, 25200, -14400⟩, ⟨10, .last 0, 21600, -18000⟩],
     .yearly 2007 2099 [⟨3, .onOrAfter 0 8, 25200, -14400⟩, ⟨11, .onOrAfter 0 1, 21600, -18000⟩]]⟩),
   ("America/Nome", ⟨46702, [.once (-3225223727) (-39698), .once (-2188947502) (-39600),
     .once (-880196400) (-36000), .once (-765374400) (-39600),
     .yearly 1969 1973 [⟨4, .last 0, 46800, -36000⟩, ⟨10, .last 0, 43200, -39600⟩],
     .once 126709200 (-36000), .once 152107200 (-39600), .once 162392400 (-36000),
     .once 183556800 (-39600),
     .yearly 1976 1982 [⟨4, .last 0, 46800, -36000⟩, ⟨10, .last 0, 43200, -39600⟩],
     .once 420037200 (-36000), .once 436363200 (-32400),
     .yearly 1984 1986 [⟨4, .last 0, 39600, -28800⟩, ⟨10, .last 0, 36000, -32400⟩],
     .yearly 1987 2006 [⟨4, .onOrAfter 0 1, 39600, -28800⟩, ⟨10, .last 0, 36000, -32400⟩],
     .yearly 2007 2099 [⟨3, .onOrAfter 0 8, 39600, -28800⟩, ⟨11, .onOrAfter 0 1, 36000, -32400⟩]]⟩),
   ("America/Noronha", ⟨-7780, [.once (-1767217820) (-7200), .once (-1206961200) (-3600),
     .once (-1191366000) (-7200), .once (-1175378400) (-3600), .once (-1159830000) (-7200),
     .once (-633823200) (-3600), .once (-622072800) (-7200), .once (-602287200) (-3600),
     .yearly 1951 1952 [⟨4, .on 1, 3600, -7200⟩, ⟨12, .on 1, 7200, -3600⟩],
     .once (-531356400) (-7200), .once (-191368800) (-3600), .once (-184201200) (-7200),
     .once (-155167200) (-3600), .once (-150073200) (-7200), .once (-128901600) (-3600),
     .yearly 1966 1967 [⟨3, .on 1, 3600, -7200⟩, ⟨11, .on 1, 7200, -3600⟩],
     .once (-57970800) (-7200), .once 499744800 (-3600), .once 511232400 (-7200),
     .once 530589600 (-3600), .once 540262800 (-7200), .once 562125600 (-3600),
     .once 571194000 (-7200), .once 592970400 (-3600), .once 602038800 (-7200),
     .once 624420000 (-3600), .once 634698000 (-7200), .once 938916000 (-3600),
     .once 951613200 (-7200), .once 970970400 (-3600), .once 971571600 (-7200),
     .once 1003024800 (-3600), .once 1013907600 (-7200)]⟩),
   ("America/North_Dakota/Beulah", ⟨-24427, [.once (-2717643600) (-25200),
     .yearly 1918 1919 [⟨3, .last 0, 32400, -21600⟩, ⟨10, .last 0, 28800, -25200⟩],
     .once (-880210800) (-21600), .once (-765388800) (-25200),
     .yearly 1967 1973 [⟨4, .last 0, 32400, -21600⟩, ⟨10, .last 0, 28800, -25200⟩],
     .once 126694800 (-21600), .once 152092800 (-25200), .once 162378000 (-21600),
     .once 183542400 (-25200),
     .yearly 1976 1986 [⟨4, .last 0, 32400, -21600⟩, ⟨10, .last 0, 28800, -25200⟩],
     .yearly 1987 2006 [⟨4, .onOrAfter 0 1, 32400, -21600⟩, ⟨10, .last 0, 28800, -25200⟩],
     .yearly 2007 2009 [⟨3, .onOrAfter 0 8, 32400, -21600⟩, ⟨11, .onOrAfter 0 1, 28800, -25200⟩],
     .once 1268557200 (-21600),
     .yearly 2011 2099 [⟨3, .onOrAfter 0 8, 28800, -18000⟩, ⟨11, .onOrAfter 0 1, 25200, -21600⟩]]⟩),
   ("America/North_Dakota/Center", ⟨-24312, [.once (-2717643600) (-25200),
     .yearly 1918 1919 [⟨3, .last 0, 32400, -21600⟩, ⟨10, .last 0, 28800, -25200⟩],
     .once (-880210800) (-21600), .once (-765388800) (-25200),
     .yearly 1967 1973 [⟨4, .last 0, 32400, -21600⟩, ⟨10, .last 0, 28800, -25200⟩],
     .once 126694800 (-21600), .once 152092800 (-25200), .once 162378000 (-21600),
     .once 183542400 (-25200),
     .yearly 1976 1986 [⟨4, .last 0, 32400, -21600⟩, ⟨10, .last 0, 28800, -25200⟩],
     .yearly 1987 1991 [⟨4, .onOrAfter 0 1, 32400, -21600⟩, ⟨10, .last 0, 28800, -25200⟩],
     .once 702464400 (-21600),
     .yearly 1993 2006 [⟨4, .onOrAfter 0 1, 28800, -18000⟩, ⟨10, .last 0, 25200, -21600⟩],
     .yearly 2007 2099 [⟨3, .onOrAfter 0 8, 28800, -18000⟩, ⟨11, .onOrAfter 0 1, 25200, -21600⟩]]⟩),
   ("America/North_Dakota/New_Salem", ⟨-24339, [.once (-2717643600) (-25200),
     .yearly 1918 1919 [⟨3, .last 0, 32400, -21600⟩, ⟨10, .last 0, 28800, -25200⟩],
     .once (-880210800) (-21600), .once (-765388800) (-25200),
     .yearly 1967 1973 [⟨4, .last 0, 32400, -21600⟩, ⟨10, .last 0, 28800, -25200⟩],
     .once 126694800 (-21600), .once 152092800 (-25200), .once 162378000 (-21600),
     .once 183542400 (-25200),
     .yearly 1976 1986 [⟨4, .last 0, 32400, -21600⟩, ⟨10, .last 0, 28800, -25200⟩],
     .yearly 1987 2002 [⟨4, .onOrAfter 0 1, 32400, -21600⟩, ⟨10, .last 0, 28800, -25200⟩],
     .once 1049619600 (-21600),
     .yearly 2004 2006 [⟨4, .onOrAfter 0 1, 28800, -18000⟩, ⟨10, .last 0, 25200, -21600⟩],
     .yearly 2007 2099 [⟨3, .onOrAfter 0 8, 28800, -18000⟩, ⟨11, .onOrAfter 0 1, 25200, -21600⟩]]⟩),
   ("America/Nuuk", ⟨-12416, [.once (-1686083584) (-10800), .once 323845200 (-7200),
     .once 338950800 (-10800),
     .yearly 1981 1995 [⟨3, .last 0, 3600, -7200⟩, ⟨9, .last 0, 3600, -10800⟩],
     .yearly 1996 2022 [⟨3, .last 0, 3600, -7200⟩, ⟨10, .last 0, 3600, -10800⟩],
     .once 1679792400 (-7200),
     .yearly 2024 2099 [⟨3, .last 0, 3600, -3600⟩, ⟨10, .last 0, 3600, -7200⟩]]⟩),
   ("America/Ojinaga", ⟨-25060, [.once (-1514739600) (-25200), .once (-1343149200) (-21600),
     .once (-1234807200) (-25200), .once (-1220461200) (-21600), .once (-1207159200) (-25200),
     .once (-1191344400) (-21600),
     .yearly 1996 1997 [⟨4, .onOrAfter 0 1, 28800, -18000⟩, ⟨10, .last 0, 25200, -21600⟩],
     .once 909302400 (-25200),
     .yearly 1999 2000 [⟨4, .onOrAfter 0 1, 32400, -21600⟩, ⟨10, .last 0, 28800, -25200⟩],
     .once 989139600 (-21600), .once 1001836800 (-25200),
     .yearly 2002 2009 [⟨4, .onOrAfter 0 1, 32400, -21600⟩, ⟨10, .last 0, 28800, -25200⟩],
     .yearly 2010 2021 [⟨3, .onOrAfter 0 8, 32400, -21600⟩, ⟨11, .onOrAfter 0 1, 28800, -25200⟩],
     .once 1647162000 (-21600),
     .yearly 2023 2099 [⟨3, .onOrAfter 0 8, 28800, -18000⟩, ⟨11, .onOrAfter 0 1, 25200, -21600⟩]]⟩),
   ("America/Panama", ⟨-19088, [.once (-2524502512) (-19176), .once (-1946918424) (-18000)]⟩),
   ("America/Paramaribo", ⟨-13240, [.once (-1861906760) (-13252), .once (-1104524348) (-13236),
     .once (-765317964) (-12600), .once 465449400 (-10800)]⟩),
   ("America/Phoenix", ⟨-26898, [.once (-2717643600) (-25200),
     .yearly 1918 1919 [⟨3, .last 0, 32400, -21600⟩, ⟨10, .last 0, 28800, -25200⟩],
     .once (-880210800) (-21600), .once (-820519140) (-25200), .once (-812653140) (-21600),
     .once (-796845540) (-25200), .once (-84380400) (-21600), .once (-68659200) (-25200)]⟩),
   ("America/Port-au-Prince", ⟨-17360, [.once (-2524504240) (-17340),
     .once (-1670483460) (-18000), .once 421218000 (-14400), .once 436334400 (-18000),
     .yearly 1984 1987 [⟨4, .last 0, 18000, -14400⟩, ⟨10, .last 0, 14400, -18000⟩],
     .yearly 1988 1997 [⟨4, .onOrAfter 0 1, 21600, -14400⟩, ⟨10, .last 0, 21600, -18000⟩],
     .yearly 2005 2006 [⟨4, .onOrAfter 0 1, 18000, -14400⟩, ⟨10, .last 0, 14400, -18000⟩],
     .yearly 2012 2015 [⟨3, .onOrAfter 0 8, 25200, -14400⟩, ⟨11, .onOrAfter 0 1, 21600, -18000⟩],
     .yearly 2017 2099 [⟨3, .onOrAfter 0 8, 25200, -14400⟩, ⟨11, .onOrAfter 0 1, 21600, -18000⟩]]⟩),
   ("America/Porto_Velho", ⟨-15336, [.once (-1767210264) (-14400), .once (-1206954000) (-10800),
     .once (-1191358800) (-14400), .once (-1175371200) (-10800), .once (-1159822800) (-14400),
     .once (-633816000) (-10800), .once (-622065600) (-14400), .once (-602280000) (-10800),
     .yearly 1951 1952 [⟨4, .on 1, 10800, -14400⟩, ⟨12, .on 1, 14400, -10800⟩],
     .once (-531349200) (-14400), .once (-191361600) (-10800), .once (-184194000) (-14400),
     .once (-155160000) (-10800), .once (-150066000) (-14400), .once (-128894400) (-10800),
     .yearly 1966 1967 [⟨3, .on 1, 10800, -14400⟩, ⟨11, .on 1, 14400, -10800⟩],
     .once (-57963600) (-14400), .once 499752000 (-10800), .once 511239600 (-14400),
     .once 530596800 (-10800), .once 540270000 (-14400), .once 562132800 (-10800),
     .once 571201200 (-14400)]⟩),
   ("America/Puerto_Rico", ⟨-15865, [.once (-2233035335) (-14400), .once (-873057600) (-10800),
     .once (-765399600) (-14400)]⟩),
   ("America/Punta_Arenas", ⟨-17020, [.once (-2524504580) (-16965),
     .once (-1892661435) (-18000), .once (-1688410800) (-16965), .once (-1619205435) (-14400),
     .once (-1593806400) (-16965), .once (-1335986235) (-14400),
     .yearly 1928 1932 [⟨4, .on 1, 14400, -18000⟩, ⟨9, .on 1, 18000, -14400⟩],
     .once (-870552000) (-18000), .once (-865278000) (-14400), .once (-718056000) (-18000),
     .once (-713649600) (-14400), .once (-36619200) (-10800), .once (-23922000) (-14400),
     .once (-3355200) (-10800), .once 7527600 (-14400), .once 24465600 (-10800),
     .yearly 1971 1972 [⟨3, .onOrAfter 0 8, 10800, -14400⟩, ⟨10, .onOrAfter 0 10, 14400, -10800⟩],
     .once 100666800 (-14400), .once 118209600 (-10800),
     .yearly 1974 1986 [⟨3, .onOrAfter 0 9, 10800, -14400⟩, ⟨10, .onOrAfter 0 9, 14400, -10800⟩],
     .once 545194800 (-14400), .once 560923200 (-10800),
     .yearly 1988 1989 [⟨3, .onOrAfter 0 8, 10800, -14400⟩, ⟨10, .onOrAfter 0 9, 14400, -10800⟩],
     .once 637124400 (-14400), .once 653457600 (-10800),
     .yearly 1991 1996 [⟨3, .onOrAfter 0 10, 10800, -14400⟩, ⟨10, .onOrAfter 0 9, 14400, -10800⟩],
     .once 859690800 (-14400), .once 876628800 (-10800), .once 889930800 (-14400),
     .once 906868800 (-10800), .once 923194800 (-14400), .once 939528000 (-10800),
     .yearly 2000 2007 [⟨3, .onOrAfter 0 8, 10800, -14400⟩, ⟨10, .onOrAfter 0 9, 14400, -10800⟩],
     .once 1206846000 (-14400), .once 1223784000 (-10800), .once 1237086000 (-14400),
     .once 1255233600 (-10800), .once 1270350000 (-14400), .once 1286683200 (-10800),
     .once 1304823600 (-14400), .once 1313899200 (-10800),
     .yearly 2012 2014 [⟨4, .last 0, 10800, -14400⟩, ⟨9, .onOrAfter 0 2, 14400, -10800⟩],
     .once 1463281200 (-14400), .once 1471147200 (-10800)]⟩),
   ("America/Rankin_Inlet", ⟨0, [.once (-410227200) (-21600),
     .yearly 1972 1986 [⟨4, .last 0, 28800, -18000⟩, ⟨10, .last 0, 25200, -21600⟩],
     .yearly 1987 1999 [⟨4, .onOrAfter 0 1, 28800, -18000⟩, ⟨10, .last 0, 25200, -21600⟩],
     .once 954662400 (-18000), .once 1004252400 (-21600),
     .yearly 2002 2006 [⟨4, .onOrAfter 0 1, 28800, -18000⟩, ⟨10, .last 0, 25200, -21600⟩],
     .yearly 2007 2099 [⟨3, .onOrAfter 0 8, 28800, -18000⟩, ⟨11, .onOrAfter 0 1, 25200, -21600⟩]]⟩),
   ("America/Recife", ⟨-8376, [.once (-1767217224) (-10800), .once (-1206957600) (-7200),
     .once (-1191362400) (-10800), .once (-1175374800) (-7200), .once (-1159826400) (-10800),
     .once (-633819600) (-7200), .once (-622069200) (-10800), .once (-602283600) (-7200),
     .yearly 1951 1952 [⟨4, .on 1, 7200, -10800⟩, ⟨12, .on 1, 10800, -7200⟩],
     .once (-531352800) (-10800), .once (-191365200) (-7200), .once (-184197600) (-10800),
     .once (-155163600) (-7200), .once (-150069600) (-10800), .once (-128898000) (-7200),
     .yearly 1966 1967 [⟨3, .on 1, 7200, -10800⟩, ⟨11, .on 1, 10800, -7200⟩],
     .once (-57967200) (-10800), .once 499748400 (-7200), .once 511236000 (-10800),
     .once 530593200 (-7200), .once 540266400 (-10800), .once 562129200 (-7200),
     .once 571197600 (-10800), .once 592974000 (-7200), .once 602042400 (-10800),
     .once 624423600 (-7200), .once 634701600 (-10800), .once 938919600 (-7200),
     .once 951616800 (-10800), .once 970974000 (-7200), .once 971575200 (-10800),
     .once 1003028400 (-7200), .once 1013911200 (-10800)]⟩),
   ("America/Regina", ⟨-25116, [.once (-2030202084) (-25200), .once (-1632063600) (-21600),
     .once (-1615132800) (-25200),
     .yearly 1930 1934 [⟨5, .onOrAfter 0 1, 25200, -21600⟩, ⟨10, .onOrAfter 0 1, 21600, -25200⟩],
     .once (-1032714000) (-21600), .once (-1016992800) (-25200),
     .yearly 1938 1939 [⟨4, .onOrAfter 0 8, 25200, -21600⟩, ⟨10, .onOrAfter 0 2, 21600, -25200⟩],
     .yearly 1940 1941 [⟨4, .onOrAfter 0 8, 25200, -21600⟩, ⟨10, .onOrAfter 0 8, 21600, -25200⟩],
     .once (-880210800) (-21600), .once (-765388800) (-25200), .once (-748450800) (-21600),
     .once (-732729600) (-25200),
     .yearly 1947 1957 [⟨4, .last 0, 32400, -21600⟩, ⟨9, .last 0, 28800, -25200⟩],
     .once (-337186800) (-21600), .once (-321465600) (-25200), .once (-305737200) (-21600)]⟩),
   ("America/Resolute", ⟨0, [.once (-704937600) (-21600),
     .yearly 1972 1986 [⟨4, .last 0, 28800, -18000⟩, ⟨10, .last 0, 25200, -21600⟩],
     .yearly 1987 1999 [⟨4, .onOrAfter 0 1, 28800, -18000⟩, ⟨10, .last 0, 25200, -21600⟩],
     .once 954662400 (-18000), .once 1004252400 (-21600),
     .yearly 2002 2005 [⟨4, .onOrAfter 0 1, 28800, -18000⟩, ⟨10, .last 0, 25200, -21600⟩],
     .once 1143964800 (-18000), .once 1194159600 (-21600),
     .yearly 2008 2099 [⟨3, .onOrAfter 0 8, 28800, -18000⟩, ⟨11, .onOrAfter 0 1, 25200, -21600⟩]]⟩),
   ("America/Rio_Branco", ⟨-16272, [.once (-1767209328) (-18000), .once (-1206950400) (-14400),
     .once (-1191355200) (-18000), .once (-1175367600) (-14400), .once (-1159819200) (-18000),
     .once (-633812400) (-14400), .once (-622062000) (-18000), .once (-602276400) (-14400),
     .yearly 1951 1952 [⟨4, .on 1, 14400, -18000⟩, ⟨12, .on 1, 18000, -14400⟩],
     .once (-531345600) (-18000), .once (-191358000) (-14400), .once (-184190400) (-18000),
     .once (-155156400) (-14400), .once (-150062400) (-18000), .once (-128890800) (-14400),
     .yearly 1966 1967 [⟨3, .on 1, 14400, -18000⟩, ⟨11, .on 1, 18000, -14400⟩],
     .once (-57960000) (-18000), .once 499755600 (-14400), .once 511243200 (-18000),
     .once 530600400 (-14400), .once 540273600 (-18000), .once 562136400 (-14400),
     .once 571204800 (-18000), .once 1214283600 (-14400), .once 1384056000 (-18000)]⟩),
   ("America/Santarem", ⟨-13128, [.once (-1767212472) (-14400), .once (-1206954000) (-10800),
     .once (-1191358800) (-14400), .once (-1175371200) (-10800), .once (-1159822800) (-14400),
     .once (-633816000) (-10800), .once (-622065600) (-14400), .once (-602280000) (-10800),
     .yearly 1951 1952 [⟨4, .on 1, 10800, -14400⟩, ⟨12, .on 1, 14400, -10800⟩],
     .once (-531349200) (-14400), .once (-191361600) (-10800), .once (-184194000) (-14400),
     .once (-155160000) (-10800), .once (-150066000) (-14400), .once (-128894400) (-10800),
     .yearly 1966 1967 [⟨3, .on 1, 10800, -14400⟩, ⟨11, .on 1, 14400, -10800⟩],
     .once (-57963600) (-14400), .once 499752000 (-10800), .once 511239600 (-14400),
     .once 530596800 (-10800), .once 540270000 (-14400), .once 562132800 (-10800),
     .once 571201200 (-14400), .once 1214280000 (-10800)]⟩),
   ("America/Santiago", ⟨-16965, [.once (-1892661435) (-18000), .once (-1688410800) (-16965),
     .once (-1619205435) (-14400), .once (-1593806400) (-16965), .once (-1335986235) (-14400),
     .yearly 1928 1932 [⟨4, .on 1, 14400, -18000⟩, ⟨9, .on 1, 18000, -14400⟩],
     .once (-870552000) (-18000), .once (-865278000) (-14400), .once (-740520000) (-10800),
     .once (-736635600) (-14400), .once (-718056000) (-18000), .once (-713649600) (-14400),
     .once (-36619200) (-10800), .once (-23922000) (-14400), .once (-3355200) (-10800),
     .once 7527600 (-14400), .once 24465600 (-10800),
     .yearly 1971 1972 [⟨3, .onOrAfter 0 8, 10800, -14400⟩, ⟨10, .onOrAfter 0 10, 14400, -10800⟩],
     .once 100666800 (-14400), .once 118209600 (-10800),
     .yearly 1974 1986 [⟨3, .onOrAfter 0 9, 10800, -14400⟩, ⟨10, .onOrAfter 0 9, 14400, -10800⟩],
     .once 545194800 (-14400), .once 560923200 (-10800),
     .yearly 1988 1989 [⟨3, .onOrAfter 0 8, 10800, -14400⟩, ⟨10, .onOrAfter 0 9, 14400, -10800⟩],
     .once 637124400 (-14400), .once 653457600 (-10800),
     .yearly 1991 1996 [⟨3, .onOrAfter 0 10, 10800, -14400⟩, ⟨10, .onOrAfter 0 9, 14400, -10800⟩],
     .once 859690800 (-14400), .once 876628800 (-10800), .once 889930800 (-14400),
     .once 906868800 (-10800), .once 923194800 (-14400), .once 939528000 (-10800),
     .yearly 2000 2007 [⟨3, .onOrAfter 0 8, 10800, -14400⟩, ⟨10, .onOrAfter 0 9, 14400, -10800⟩],
     .once 1206846000 (-14400), .once 1223784000 (-10800), .once 1237086000 (-14400),
     .once 1255233600 (-10800), .once 1270350000 (-14400), .once 1286683200 (-10800),
     .once 1304823600 (-14400), .once 1313899200 (-10800),
     .yearly 2012 2014 [⟨4, .last 0, 10800, -14400⟩, ⟨9, .onOrAfter 0 2, 14400, -10800⟩],
     .yearly 2016 2018 [⟨5, .onOrAfter 0 10, 10800, -14400⟩, ⟨8, .onOrAfter 0 8, 14400, -10800⟩],
     .yearly 2019 2022 [⟨4, .onOrAfter 0 1, 10800, -14400⟩, ⟨9, .onOrAfter 0 5, 14400, -10800⟩],
     .yearly 2023 2099 [⟨4, .onOrAfter 0 2, 10800, -14400⟩, ⟨9, .onOrAfter 0 2, 14400, -10800⟩]]⟩),
   ("America/Santo_Domingo", ⟨-16776, [.once (-2524504824) (-16800),
     .once (-1159773600) (-18000), .once (-100119600) (-14400), .once (-89668800) (-18000),
     .once (-5770800) (-16200), .once 4422600 (-18000), .once 25678800 (-16200),
     .once 33193800 (-18000), .once 57733200 (-16200),
     .yearly 1972 1973 [⟨1, .on 21, 16200, -18000⟩, ⟨10, .last 0, 18000, -16200⟩],
     .once 127974600 (-18000), .once 152082000 (-14400), .once 972799200 (-18000),
     .once 975823200 (-14400)]⟩),
   ("America/Sao_Paulo", ⟨-11188, [.once (-1767214412) (-10800), .once (-1206957600) (-7200),
     .once (-1191362400) (-10800), .once (-1175374800) (-7200), .once (-1159826400) (-10800),
     .once (-633819600) (-7200), .once (-622069200) (-10800), .once (-602283600) (-7200),
     .yearly 1951 1952 [⟨4, .on 1, 7200, -10800⟩, ⟨12, .on 1, 10800, -7200⟩],
     .once (-531352800) (-10800), .once (-195426000) (-7200), .once (-184197600) (-10800),
     .once (-155163600) (-7200), .once (-150069600) (-10800), .once (-128898000) (-7200),
     .yearly 1966 1967 [⟨3, .on 1, 7200, -10800⟩, ⟨11, .on 1, 10800, -7200⟩],
     .once (-57967200) (-10800), .once 499748400 (-7200), .once 511236000 (-10800),
     .once 530593200 (-7200), .once 540266400 (-10800), .once 562129200 (-7200),
     .once 571197600 (-10800), .once 592974000 (-7200), .once 602042400 (-10800),
     .once 624423600 (-7200),
     .yearly 1990 1991 [⟨2, .onOrAfter 0 11, 7200, -10800⟩, ⟨10, .onOrAfter 0 15, 10800, -7200⟩],
     .once 697600800 (-10800), .once 719982000 (-7200), .once 728445600 (-10800),
     .once 750826800 (-7200),
     .yearly 1994 1995 [⟨2, .onOrAfter 0 15, 7200, -10800⟩, ⟨10, .onOrAfter 0 15, 10800, -7200⟩],
     .yearly 1996 1997 [⟨2, .onOrAfter 0 10, 7200, -10800⟩, ⟨10, .on 6, 10800, -7200⟩],
     .once 888717600 (-10800), .once 908074800 (-7200),
     .yearly 1999 2000 [⟨2, .onOrAfter 0 21, 7200, -10800⟩, ⟨10, .onOrAfter 0 2, 10800, -7200⟩],
     .once 982461600 (-10800), .once 1003028400 (-7200), .once 1013911200 (-10800),
     .once 1036292400 (-7200), .once 1045360800 (-10800), .once 1066532400 (-7200),
     .once 1076810400 (-10800), .once 1099364400 (-7200), .once 1108864800 (-10800),
     .once 1129431600 (-7200), .once 1140314400 (-10800), .once 1162695600 (-7200),
     .once 1172368800 (-10800), .once 1192330800 (-7200),
     .yearly 2008 2011 [⟨2, .onOrAfter 0 15, 7200, -10800⟩, ⟨10, .onOrAfter 0 15, 10800, -7200⟩],
     .once 1330221600 (-10800), .once 1350788400 (-7200),
     .yearly 2013 2017 [⟨2, .onOrAfter 0 16, 7200, -10800⟩, ⟨10, .onOrAfter 0 15, 10800, -7200⟩],
     .once 1518919200 (-10800), .once 1541300400 (-7200), .once 1550368800 (-10800)]⟩),
   ("America/Scoresbysund", ⟨-5272, [.once (-1686090728) (-7200), .once 323841600 (-3600),
     .once 338961600 (-7200), .once 354679200 0, .once 370400400 (-3600),
     .yearly 1982 1995 [⟨3, .last 0, 3600, 0⟩, ⟨9, .last 0, 3600, -3600⟩],
     .yearly 1996 2023 [⟨3, .last 0, 3600, 0⟩, ⟨10, .last 0, 3600, -3600⟩],
     .once 1729990800 (-7200),
     .yearly 2025 2099 [⟨3, .last 0, 3600, -3600⟩, ⟨10, .last 0, 3600, -7200⟩]]⟩),
   ("America/Sitka", ⟨53927, [.once (-3225223727) (-32473), .once (-2188954727) (-28800),
     .once (-880207200) (-25200), .once (-765385200) (-28800),
     .yearly 1969 1973 [⟨4, .last 0, 36000, -25200⟩, ⟨10, .last 0, 32400, -28800⟩],
     .once 126698400 (-25200), .once 152096400 (-28800), .once 162381600 (-25200),
     .once 183546000 (-28800),
     .yearly 1976 1982 [⟨4, .last 0, 36000, -25200⟩, ⟨10, .last 0, 32400, -28800⟩],
     .once 420026400 (-25200), .once 436352400 (-32400),
     .yearly 1984 1986 [⟨4, .last 0, 39600, -28800⟩, ⟨10, .last 0, 36000, -32400⟩],
     .yearly 1987 2006 [⟨4, .onOrAfter 0 1, 39600, -28800⟩, ⟨10, .last 0, 36000, -32400⟩],
     .yearly 2007 2099 [⟨3, .onOrAfter 0 8, 39600, -28800⟩, ⟨11, .onOrAfter 0 1, 36000, -32400⟩]]⟩),
   ("America/St_Johns", ⟨-12652, [.once (-1664130548) (-9052), .once (-1650137348) (-12652),
     .once (-1632076148) (-9052), .once (-1615145348) (-12652), .once (-1598650148) (-9052),
     .once (-1590100148) (-12652),
     .yearly 1920 1934 [⟨5, .onOrAfter 1 2, 9052, -9052⟩, ⟨10, .last 0, 91852, -12652⟩],
     .once (-1096921748) (-12600), .once (-1093728600) (-9000), .once (-1078612200) (-12600),
     .yearly 1936 1941 [⟨5, .onOrAfter 1 9, 12600, -9000⟩, ⟨10, .onOrAfter 1 1, 9000, -12600⟩],
     .once (-872368200) (-9000), .once (-765401400) (-12600),
     .yearly 1946 1950 [⟨5, .onOrAfter 0 8, 19800, -9000⟩, ⟨10, .onOrAfter 0 2, 16200, -12600⟩],
     .yearly 1951 1959 [⟨4, .last 0, 19800, -9000⟩, ⟨9, .last 0, 16200, -12600⟩],
     .yearly 1960 1986 [⟨4, .last 0, 19800, -9000⟩, ⟨10, .last 0, 16200, -12600⟩],
     .once 544591860 (-9000), .once 562127460 (-12600), .once 576041460 (-5400),
     .once 594178260 (-12600),
     .yearly 1989 2006 [⟨4, .onOrAfter 0 1, 12660, -9000⟩, ⟨10, .last 0, 9060, -12600⟩],
     .yearly 2007 2010 [⟨3, .onOrAfter 0 8, 12660, -9000⟩, ⟨11, .onOrAfter 0 1, 9060, -12600⟩],
     .once 1299987060 (-9000), .once 1320553800 (-12600),
     .yearly 2012 2099 [⟨3, .onOrAfter 0 8, 19800, -9000⟩, ⟨11, .onOrAfter 0 1, 16200, -12600⟩]]⟩),
   ("America/Swift_Current", ⟨-25880, [.once (-2030201320) (-25200),
     .once (-1632063600) (-21600), .once (-1615132800) (-25200), .once (-880210800) (-21600),
     .once (-765388800) (-25200), .once (-747241200) (-21600), .once (-732729600) (-25200),
     .yearly 1947 1949 [⟨4, .last 0, 32400, -21600⟩, ⟨9, .last 0, 28800, -25200⟩],
     .once (-400086000) (-21600), .once (-384364800) (-25200), .once (-337186800) (-21600),
     .once (-321465600) (-25200),
     .yearly 1960 1961 [⟨4, .last 0, 32400, -21600⟩, ⟨9, .last 0, 28800, -25200⟩],
     .once 73472400 (-21600)]⟩),
   ("America/Tegucigalpa", ⟨-20932, [.once (-1538503868) (-21600),
     .yearly 1987 1988 [⟨5, .onOrAfter 0 1, 21600, -18000⟩, ⟨9, .last 0, 18000, -21600⟩],
     .once 1146981600 (-18000), .once 1154926800 (-21600)]⟩),
   ("America/Thule", ⟨-16508, [.once (-1686079492) (-14400),
     .yearly 1991 1992 [⟨3, .last 0, 21600, -10800⟩, ⟨9, .last 0, 18000, -14400⟩],
     .yearly 1993 2006 [⟨4, .onOrAfter 0 1, 21600, -10800⟩, ⟨10, .last 0, 18000, -14400⟩],
     .yearly 2007 2099 [⟨3, .onOrAfter 0 8, 21600, -10800⟩, ⟨11, .onOrAfter 0 1, 18000, -14400⟩]]⟩),
   ("America/Tijuana", ⟨-28084, [.once (-1514739600) (-25200), .once (-1451667600) (-28800),
     .once (-1343145600) (-25200), .once (-1234803600) (-28800), .once (-1222963200) (-25200),
     .once (-1207242000) (-28800), .once (-873820800) (-25200), .once (-761418000) (-28800),
     .once (-686073600) (-25200), .once (-661539600) (-28800), .once (-620755200) (-25200),
     .once (-608144400) (-28800),
     .yearly 1951 1952 [⟨4, .last 0, 36000, -25200⟩, ⟨9, .last 0, 32400, -28800⟩],
     .yearly 1954 1960 [⟨4, .last 0, 32400, -25200⟩, ⟨9, .last 0, 32400, -28800⟩],
     .yearly 1976 1986 [⟨4, .last 0, 36000, -25200⟩, ⟨10, .last 0, 32400, -28800⟩],
     .yearly 1987 2009 [⟨4, .onOrAfter 0 1, 36000, -25200⟩, ⟨10, .last 0, 32400, -28800⟩],
     .yearly 2010 2099 [⟨3, .onOrAfter 0 8, 36000, -25200⟩, ⟨11, .onOrAfter 0 1, 32400, -28800⟩]]⟩),
   ("America/Toronto", ⟨-19052, [.once (-2366736148) (-18000), .once (-1632070800) (-14400),
     .once (-1615140000) (-18000), .once (-1601753400) (-14400), .once (-1583697600) (-18000),
     .once (-1567357200) (-14400), .once (-1554667200) (-18000), .once (-1534698000) (-14400),
     .once (-1524074400) (-18000),
     .yearly 1922 1923 [⟨5, .onOrAfter 0 8, 25200, -14400⟩, ⟨9, .onOrAfter 0 15, 21600, -18000⟩],
     .yearly 1924 1927 [⟨5, .onOrAfter 0 1, 25200, -14400⟩, ⟨9, .onOrAfter 0 19, 21600, -18000⟩],
     .yearly 1928 1937 [⟨4, .last 6, 111600, -14400⟩, ⟨9, .last 6, 108000, -18000⟩],
     .yearly 1938 1939 [⟨4, .last 0, 25200, -14400⟩, ⟨9, .last 0, 21600, -18000⟩],
     .once (-936550800) (-14400), .once (-765396000) (-18000),
     .yearly 1946 1948 [⟨4, .last 0, 25200, -14400⟩, ⟨9, .last 0, 21600, -18000⟩],
     .yearly 1949 1950 [⟨4, .last 0, 25200, -14400⟩, ⟨11, .last 0, 21600, -18000⟩],
     .yearly 1951 1956 [⟨4, .last 0, 25200, -14400⟩, ⟨9, .last 0, 21600, -18000⟩],
     .yearly 1957 1986 [⟨4, .last 0, 25200, -14400⟩, ⟨10, .last 0, 21600, -18000⟩],
     .yearly 1987 2006 [⟨4, .onOrAfter 0 1, 25200, -14400⟩, ⟨10, .last 0, 21600, -18000⟩],
     .yearly 2007 2099 [⟨3, .onOrAfter 0 8, 25200, -14400⟩, ⟨11, .onOrAfter 0 1, 21600, -18000⟩]]⟩),
   ("America/Vancouver", ⟨-29548, [.once (-2713880852) (-28800), .once (-1632060000) (-25200),
     .once (-1615129200) (-28800), .once (-880207200) (-25200), .once (-765385200) (-28800),
     .yearly 1946 1961 [⟨4, .last 0, 36000, -25200⟩, ⟨9, .last 0, 32400, -28800⟩],
     .yearly 1962 1986 [⟨4, .last 0, 36000, -25200⟩, ⟨10, .last 0, 32400, -28800⟩],
     .yearly 1987 2006 [⟨4, .onOrAfter 0 1, 36000, -25200⟩, ⟨10, .last 0, 32400, -28800⟩],
     .yearly 2007 2099 [⟨3, .onOrAfter 0 8, 36000, -25200⟩, ⟨11, .onOrAfter 0 1, 32400, -28800⟩]]⟩),
   ("America/Whitehorse", ⟨-32412, [.once (-2188997988) (-32400), .once (-1632056400) (-28800),
     .once (-1615125600) (-32400), .once (-1596978000) (-28800), .once (-1583164800) (-32400),
     .once (-880203600) (-28800), .once (-765381600) (-32400), .once (-147884400) (-25200),
     .once (-131554800) (-32400), .once (-121273200) (-28800),
     .yearly 1980 1986 [⟨4, .last 0, 36000, -25200⟩, ⟨10, .last 0, 32400, -28800⟩],
     .yearly 1987 2006 [⟨4, .onOrAfter 0 1, 36000, -25200⟩, ⟨10, .last 0, 32400, -28800⟩],
     .yearly 2007 2019 [⟨3, .onOrAfter 0 8, 36000, -25200⟩, ⟨11, .onOrAfter 0 1, 32400, -28800⟩],
     .once 1583661600 (-25200)]⟩),
   ("America/Winnipeg", ⟨-23316, [.once (-2602258284) (-21600), .once (-1694368800) (-18000),
     .once (-1681671600) (-21600), .once (-1632067200) (-18000), .once (-1615136400) (-21600),
     .once (-1029686400) (-18000), .once (-1018198800) (-21600), .once (-880214400) (-18000),
     .once (-765392400) (-21600), .once (-746035200) (-18000), .once (-732733200) (-21600),
     .yearly 1947 1949 [⟨4, .last 0, 28800, -18000⟩, ⟨9, .last 0, 25200, -21600⟩],
     .once (-620755200) (-18000), .once (-607626000) (-21600),
     .yearly 1951 1958 [⟨4, .last 0, 28800, -18000⟩, ⟨9, .last 0, 25200, -21600⟩],
     .once (-337190400) (-18000), .once (-321469200) (-21600), .once (-305740800) (-18000),
     .once (-292438800) (-21600), .once (-210787200) (-18000), .once (-198090000) (-21600),
     .yearly 1966 1986 [⟨4, .last 0, 28800, -18000⟩, ⟨10, .last 0, 28800, -21600⟩],
     .yearly 1987 2005 [⟨4, .onOrAfter 0 1, 28800, -18000⟩, ⟨10, .last 0, 28800, -21600⟩],
     .once 1143964800 (-18000), .once 1162105200 (-21600),
     .yearly 2007 2099 [⟨3, .onOrAfter 0 8, 28800, -18000⟩, ⟨11, .onOrAfter 0 1, 25200, -21600⟩]]⟩),
   ("America/Yakutat", ⟨52865, [.once (-3225223727) (-33535), .once (-2188953665) (-32400),
     .once (-880203600) (-28800), .once (-765381600) (-32400),
     .yearly 1969 1973 [⟨4, .last 0, 39600, -28800⟩, ⟨10, .last 0, 36000, -32400⟩],
     .once 126702000 (-28800), .once 152100000 (-32400), .once 162385200 (-28800),
     .once 183549600 (-32400),
     .yearly 1976 1986 [⟨4, .last 0, 39600, -28800⟩, ⟨10, .last 0, 36000, -32400⟩],
     .yearly 1987 2006 [⟨4, .onOrAfter 0 1, 39600, -28800⟩, ⟨10, .last 0, 36000, -32400⟩],
     .yearly 2007 2099 [⟨3, .onOrAfter 0 8, 39600, -28800⟩, ⟨11, .onOrAfter 0 1, 36000, -32400⟩]]⟩)]

end HydroArchive.ZoneTable
