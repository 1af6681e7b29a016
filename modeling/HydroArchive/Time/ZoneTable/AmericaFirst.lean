import HydroArchive.Time.ZoneHistory

/-!
# Zone table: the zones of America, from Adak to Kentucky

Each zone with the offset of its first clock and all changes of its clock up to the year 2099.
-/

namespace HydroArchive.ZoneTable

/-- The clocks of the zones of America, from Adak to Kentucky. -/
def americaFirst : List (String × ZoneHistory) :=
  [("America/Adak", ⟨44002, [.once (-3225223727) (-42398), .once (-2188944802) (-39600),
     .once (-880196400) (-36000), .once (-765374400) (-39600),
     .yearly 1969 1973 [⟨4, .last 0, 46800, -36000⟩, ⟨10, .last 0, 43200, -39600⟩],
     .once 126709200 (-36000), .once 152107200 (-39600), .once 162392400 (-36000),
     .once 183556800 (-39600),
     .yearly 1976 1982 [⟨4, .last 0, 46800, -36000⟩, ⟨10, .last 0, 43200, -39600⟩],
     .once 420037200 (-36000),
     .yearly 1984 1986 [⟨4, .last 0, 43200, -32400⟩, ⟨10, .last 0, 39600, -36000⟩],
     .yearly 1987 2006 [⟨4, .onOrAfter 0 1, 43200, -32400⟩, ⟨10, .last 0, 39600, -36000⟩],
     .yearly 2007 2099 [⟨3, .onOrAfter 0 8, 43200, -32400⟩, ⟨11, .onOrAfter 0 1, 39600, -36000⟩]]⟩),
   ("America/Anchorage", ⟨50424, [.once (-3225223727) (-35976), .once (-2188951224) (-36000),
     .once (-880200000) (-32400), .once (-765378000) (-36000),
     .yearly 1969 1973 [⟨4, .last 0, 43200, -32400⟩, ⟨10, .last 0, 39600, -36000⟩],
     .once 126705600 (-32400), .once 152103600 (-36000), .once 162388800 (-32400),
     .once 183553200 (-36000),
     .yearly 1976 1982 [⟨4, .last 0, 43200, -32400⟩, ⟨10, .last 0, 39600, -36000⟩],
     .once 420033600 (-32400),
     .yearly 1984 1986 [⟨4, .last 0, 39600, -28800⟩, ⟨10, .last 0, 36000, -32400⟩],
     .yearly 1987 2006 [⟨4, .onOrAfter 0 1, 39600, -28800⟩, ⟨10, .last 0, 36000, -32400⟩],
     .yearly 2007 2099 [⟨3, .onOrAfter 0 8, 39600, -28800⟩, ⟨11, .onOrAfter 0 1, 36000, -32400⟩]]⟩),
   ("America/Araguaina", ⟨-11568, [.once (-1767214032) (-10800), .once (-1206957600) (-7200),
     .once (-1191362400) (-10800), .once (-1175374800) (-7200), .once (-1159826400) (-10800),
     .once (-633819600) (-7200), .once (-622069200) (-10800), .once (-602283600) (-7200),
     .yearly 1951 1952 [⟨4, .on 1, 7200, -10800⟩, ⟨12, .on 1, 10800, -7200⟩],
     .once (-531352800) (-10800), .once (-191365200) (-7200), .once (-184197600) (-10800),
     .once (-155163600) (-7200), .once (-150069600) (-10800), .once (-128898000) (-7200),
     .yearly 1966 1967 [⟨3, .on 1, 7200, -10800⟩, ⟨11, .on 1, 10800, -7200⟩],
     .once (-57967200) (-10800), .once 499748400 (-7200), .once 511236000 (-10800),
     .once 530593200 (-7200), .once 540266400 (-10800), .once 562129200 (-7200),
     .once 571197600 (-10800), .once 592974000 (-7200), .once 602042400 (-10800),
     .once 624423600 (-7200), .once 634701600 (-10800), .once 813726000 (-7200),
     .yearly 1996 1997 [⟨2, .onOrAfter 0 10, 7200, -10800⟩, ⟨10, .on 6, 10800, -7200⟩],
     .once 888717600 (-10800), .once 908074800 (-7200),
     .yearly 1999 2000 [⟨2, .onOrAfter 0 21, 7200, -10800⟩, ⟨10, .onOrAfter 0 2, 10800, -7200⟩],
     .once 982461600 (-10800), .once 1003028400 (-7200), .once 1013911200 (-10800),
     .once 1036292400 (-7200), .once 1045360800 (-10800), .once 1350788400 (-7200),
     .once 1361066400 (-10800)]⟩),
   ("America/Argentina/Buenos_Aires", ⟨-14028, [.once (-2372097972) (-15408),
     .once (-1567453392) (-14400), .once (-1233432000) (-10800), .once (-1222981200) (-14400),
     .once (-1205956800) (-10800),
     .yearly 1932 1939 [⟨3, .on 1, 10800, -14400⟩, ⟨11, .on 1, 14400, -10800⟩],
     .once (-941576400) (-14400), .once (-931032000) (-10800), .once (-900882000) (-14400),
     .once (-890337600) (-10800), .once (-833749200) (-14400), .once (-827265600) (-10800),
     .once (-752274000) (-14400), .once (-733780800) (-10800), .once (-197326800) (-14400),
     .once (-190843200) (-10800),
     .yearly 1964 1966 [⟨3, .on 1, 10800, -14400⟩, ⟨10, .on 15, 14400, -10800⟩],
     .yearly 1967 1969 [⟨4, .onOrAfter 0 1, 10800, -14400⟩, ⟨10, .onOrAfter 0 1, 14400, -10800⟩],
     .once 128142000 (-7200), .once 136605600 (-10800), .once 596948400 (-7200),
     .yearly 1989 1992 [⟨3, .onOrAfter 0 1, 7200, -10800⟩, ⟨10, .onOrAfter 0 15, 10800, -7200⟩],
     .once 731469600 (-10800), .once 1198983600 (-7200), .once 1205632800 (-10800),
     .once 1224385200 (-7200), .once 1237082400 (-10800)]⟩),
   ("America/Argentina/Catamarca", ⟨-15788, [.once (-2372096212) (-15408),
     .once (-1567453392) (-14400), .once (-1233432000) (-10800), .once (-1222981200) (-14400),
     .once (-1205956800) (-10800),
     .yearly 1932 1939 [⟨3, .on 1, 10800, -14400⟩, ⟨11, .on 1, 14400, -10800⟩],
     .once (-941576400) (-14400), .once (-931032000) (-10800), .once (-900882000) (-14400),
     .once (-890337600) (-10800), .once (-833749200) (-14400), .once (-827265600) (-10800),
     .once (-752274000) (-14400), .once (-733780800) (-10800), .once (-197326800) (-14400),
     .once (-190843200) (-10800),
     .yearly 1964 1966 [⟨3, .on 1, 10800, -14400⟩, ⟨10, .on 15, 14400, -10800⟩],
     .yearly 1967 1969 [⟨4, .onOrAfter 0 1, 10800, -14400⟩, ⟨10, .onOrAfter 0 1, 14400, -10800⟩],
     .once 128142000 (-7200), .once 136605600 (-10800), .once 596948400 (-7200),
     .yearly 1989 1990 [⟨3, .onOrAfter 0 1, 7200, -10800⟩, ⟨10, .onOrAfter 0 15, 10800, -7200⟩],
     .once 667965600 (-14400), .once 687931200 (-7200), .once 699415200 (-10800),
     .once 719377200 (-7200), .once 731469600 (-10800), .once 1086058800 (-14400),
     .once 1087704000 (-10800), .once 1198983600 (-7200), .once 1205632800 (-10800)]⟩),
   ("America/Argentina/Cordoba", ⟨-15408, [.once (-1567453392) (-14400),
     .once (-1233432000) (-10800), .once (-1222981200) (-14400), .once (-1205956800) (-10800),
     .yearly 1932 1939 [⟨3, .on 1, 10800, -14400⟩, ⟨11, .on 1, 14400, -10800⟩],
     .once (-941576400) (-14400), .once (-931032000) (-10800), .once (-900882000) (-14400),
     .once (-890337600) (-10800), .once (-833749200) (-14400), .once (-827265600) (-10800),
     .once (-752274000) (-14400), .once (-733780800) (-10800), .once (-197326800) (-14400),
     .once (-190843200) (-10800),
     .yearly 1964 1966 [⟨3, .on 1, 10800, -14400⟩, ⟨10, .on 15, 14400, -10800⟩],
     .yearly 1967 1969 [⟨4, .onOrAfter 0 1, 10800, -14400⟩, ⟨10, .onOrAfter 0 1, 14400, -10800⟩],
     .once 128142000 (-7200), .once 136605600 (-10800), .once 596948400 (-7200),
     .yearly 1989 1990 [⟨3, .onOrAfter 0 1, 7200, -10800⟩, ⟨10, .onOrAfter 0 15, 10800, -7200⟩],
     .once 667965600 (-14400), .once 687931200 (-7200), .once 699415200 (-10800),
     .once 719377200 (-7200), .once 731469600 (-10800), .once 1198983600 (-7200),
     .once 1205632800 (-10800), .once 1224385200 (-7200), .once 1237082400 (-10800)]⟩),
   ("America/Argentina/Jujuy", ⟨-15672, [.once (-2372096328) (-15408),
     .once (-1567453392) (-14400), .once (-1233432000) (-10800), .once (-1222981200) (-14400),
     .once (-1205956800) (-10800),
     .yearly 1932 1939 [⟨3, .on 1, 10800, -14400⟩, ⟨11, .on 1, 14400, -10800⟩],
     .once (-941576400) (-14400), .once (-931032000) (-10800), .once (-900882000) (-14400),
     .once (-890337600) (-10800), .once (-833749200) (-14400), .once (-827265600) (-10800),
     .once (-752274000) (-14400), .once (-733780800) (-10800), .once (-197326800) (-14400),
     .once (-190843200) (-10800),
     .yearly 1964 1966 [⟨3, .on 1, 10800, -14400⟩, ⟨10, .on 15, 14400, -10800⟩],
     .yearly 1967 1969 [⟨4, .onOrAfter 0 1, 10800, -14400⟩, ⟨10, .onOrAfter 0 1, 14400, -10800⟩],
     .once 128142000 (-7200), .once 136605600 (-10800), .once 596948400 (-7200),
     .once 605066400 (-10800), .once 624423600 (-7200), .once 636516000 (-14400),
     .once 657086400 (-10800), .once 669178800 (-14400), .once 686721600 (-7200),
     .once 699415200 (-10800), .once 719377200 (-7200), .once 731469600 (-10800),
     .once 1198983600 (-7200), .once 1205632800 (-10800)]⟩),
   ("America/Argentina/La_Rioja", ⟨-16044, [.once (-2372095956) (-15408),
     .once (-1567453392) (-14400), .once (-1233432000) (-10800), .once (-1222981200) (-14400),
     .once (-1205956800) (-10800),
     .yearly 1932 1939 [⟨3, .on 1, 10800, -14400⟩, ⟨11, .on 1, 14400, -10800⟩],
     .once (-941576400) (-14400), .once (-931032000) (-10800), .once (-900882000) (-14400),
     .once (-890337600) (-10800), .once (-833749200) (-14400), .once (-827265600) (-10800),
     .once (-752274000) (-14400), .once (-733780800) (-10800), .once (-197326800) (-14400),
     .once (-190843200) (-10800),
     .yearly 1964 1966 [⟨3, .on 1, 10800, -14400⟩, ⟨10, .on 15, 14400, -10800⟩],
     .yearly 1967 1969 [⟨4, .onOrAfter 0 1, 10800, -14400⟩, ⟨10, .onOrAfter 0 1, 14400, -10800⟩],
     .once 128142000 (-7200), .once 136605600 (-10800), .once 596948400 (-7200),
     .yearly 1989 1990 [⟨3, .onOrAfter 0 1, 7200, -10800⟩, ⟨10, .onOrAfter 0 15, 10800, -7200⟩],
     .once 667792800 (-14400), .once 673588800 (-10800), .once 687927600 (-7200),
     .once 699415200 (-10800), .once 719377200 (-7200), .once 731469600 (-10800),
     .once 1086058800 (-14400), .once 1087704000 (-10800), .once 1198983600 (-7200),
     .once 1205632800 (-10800)]⟩),
   ("America/Argentina/Mendoza", ⟨-16516, [.once (-2372095484) (-15408),
     .once (-1567453392) (-14400), .once (-1233432000) (-10800), .once (-1222981200) (-14400),
     .once (-1205956800) (-10800),
     .yearly 1932 1939 [⟨3, .on 1, 10800, -14400⟩, ⟨11, .on 1, 14400, -10800⟩],
     .once (-941576400) (-14400), .once (-931032000) (-10800), .once (-900882000) (-14400),
     .once (-890337600) (-10800), .once (-833749200) (-14400), .once (-827265600) (-10800),
     .once (-752274000) (-14400), .once (-733780800) (-10800), .once (-197326800) (-14400),
     .once (-190843200) (-10800),
     .yearly 1964 1966 [⟨3, .on 1, 10800, -14400⟩, ⟨10, .on 15, 14400, -10800⟩],
     .yearly 1967 1969 [⟨4, .onOrAfter 0 1, 10800, -14400⟩, ⟨10, .onOrAfter 0 1, 14400, -10800⟩],
     .once 128142000 (-7200), .once 136605600 (-10800), .once 596948400 (-7200),
     .once 605066400 (-10800), .once 624423600 (-7200), .once 636516000 (-14400),
     .once 655963200 (-10800), .once 667796400 (-14400), .once 687499200 (-10800),
     .once 699418800 (-14400), .once 719380800 (-7200), .once 731469600 (-10800),
     .once 1085281200 (-14400), .once 1096171200 (-10800), .once 1198983600 (-7200),
     .once 1205632800 (-10800)]⟩),
   ("America/Argentina/Rio_Gallegos", ⟨-16612, [.once (-2372095388) (-15408),
     .once (-1567453392) (-14400), .once (-1233432000) (-10800), .once (-1222981200) (-14400),
     .once (-1205956800) (-10800),
     .yearly 1932 1939 [⟨3, .on 1, 10800, -14400⟩, ⟨11, .on 1, 14400, -10800⟩],
     .once (-941576400) (-14400), .once (-931032000) (-10800), .once (-900882000) (-14400),
     .once (-890337600) (-10800), .once (-833749200) (-14400), .once (-827265600) (-10800),
     .once (-752274000) (-14400), .once (-733780800) (-10800), .once (-197326800) (-14400),
     .once (-190843200) (-10800),
     .yearly 1964 1966 [⟨3, .on 1, 10800, -14400⟩, ⟨10, .on 15, 14400, -10800⟩],
     .yearly 1967 1969 [⟨4, .onOrAfter 0 1, 10800, -14400⟩, ⟨10, .onOrAfter 0 1, 14400, -10800⟩],
     .once 128142000 (-7200), .once 136605600 (-10800), .once 596948400 (-7200),
     .yearly 1989 1992 [⟨3, .onOrAfter 0 1, 7200, -10800⟩, ⟨10, .onOrAfter 0 15, 10800, -7200⟩],
     .once 731469600 (-10800), .once 1086058800 (-14400), .once 1087704000 (-10800),
     .once 1198983600 (-7200), .once 1205632800 (-10800)]⟩),
   ("America/Argentina/Salta", ⟨-15700, [.once (-2372096300) (-15408),
     .once (-1567453392) (-14400), .once (-1233432000) (-10800), .once (-1222981200) (-14400),
     .once (-1205956800) (-10800),
     .yearly 1932 1939 [⟨3, .on 1, 10800, -14400⟩, ⟨11, .on 1, 14400, -10800⟩],
     .once (-941576400) (-14400), .once (-931032000) (-10800), .once (-900882000) (-14400),
     .once (-890337600) (-10800), .once (-833749200) (-14400), .once (-827265600) (-10800),
     .once (-752274000) (-14400), .once (-733780800) (-10800), .once (-197326800) (-14400),
     .once (-190843200) (-10800),
     .yearly 1964 1966 [⟨3, .on 1, 10800, -14400⟩, ⟨10, .on 15, 14400, -10800⟩],
     .yearly 1967 1969 [⟨4, .onOrAfter 0 1, 10800, -14400⟩, ⟨10, .onOrAfter 0 1, 14400, -10800⟩],
     .once 128142000 (-7200), .once 136605600 (-10800), .once 596948400 (-7200),
     .yearly 1989 1990 [⟨3, .onOrAfter 0 1, 7200, -10800⟩, ⟨10, .onOrAfter 0 15, 10800, -7200⟩],
     .once 667965600 (-14400), .once 687931200 (-7200), .once 699415200 (-10800),
     .once 719377200 (-7200), .once 731469600 (-10800), .once 1198983600 (-7200),
     .once 1205632800 (-10800)]⟩),
   ("America/Argentina/San_Juan", ⟨-16444, [.once (-2372095556) (-15408),
     .once (-1567453392) (-14400), .once (-1233432000) (-10800), .once (-1222981200) (-14400),
     .once (-1205956800) (-10800),
     .yearly 1932 1939 [⟨3, .on 1, 10800, -14400⟩, ⟨11, .on 1, 14400, -10800⟩],
     .once (-941576400) (-14400), .once (-931032000) (-10800), .once (-900882000) (-14400),
     .once (-890337600) (-10800), .once (-833749200) (-14400), .once (-827265600) (-10800),
     .once (-752274000) (-14400), .once (-733780800) (-10800), .once (-197326800) (-14400),
     .once (-190843200) (-10800),
     .yearly 1964 1966 [⟨3, .on 1, 10800, -14400⟩, ⟨10, .on 15, 14400, -10800⟩],
     .yearly 1967 1969 [⟨4, .onOrAfter 0 1, 10800, -14400⟩, ⟨10, .onOrAfter 0 1, 14400, -10800⟩],
     .once 128142000 (-7200), .once 136605600 (-10800), .once 596948400 (-7200),
     .yearly 1989 1990 [⟨3, .onOrAfter 0 1, 7200, -10800⟩, ⟨10, .onOrAfter 0 15, 10800, -7200⟩],
     .once 667792800 (-14400), .once 673588800 (-10800), .once 687927600 (-7200),
     .once 699415200 (-10800), .once 719377200 (-7200), .once 731469600 (-10800),
     .once 1085972400 (-14400), .once 1090728000 (-10800), .once 1198983600 (-7200),
     .once 1205632800 (-10800)]⟩),
   ("America/Argentina/San_Luis", ⟨-15924, [.once (-2372096076) (-15408),
     .once (-1567453392) (-14400), .once (-1233432000) (-10800), .once (-1222981200) (-14400),
     .once (-1205956800) (-10800),
     .yearly 1932 1939 [⟨3, .on 1, 10800, -14400⟩, ⟨11, .on 1, 14400, -10800⟩],
     .once (-941576400) (-14400), .once (-931032000) (-10800), .once (-900882000) (-14400),
     .once (-890337600) (-10800), .once (-833749200) (-14400), .once (-827265600) (-10800),
     .once (-752274000) (-14400), .once (-733780800) (-10800), .once (-197326800) (-14400),
     .once (-190843200) (-10800),
     .yearly 1964 1966 [⟨3, .on 1, 10800, -14400⟩, ⟨10, .on 15, 14400, -10800⟩],
     .yearly 1967 1969 [⟨4, .onOrAfter 0 1, 10800, -14400⟩, ⟨10, .onOrAfter 0 1, 14400, -10800⟩],
     .once 128142000 (-7200), .once 136605600 (-10800), .once 596948400 (-7200),
     .once 605066400 (-10800), .once 624423600 (-7200), .once 637380000 (-14400),
     .once 655963200 (-10800), .once 667796400 (-14400), .once 675748800 (-10800),
     .once 1085972400 (-14400), .once 1090728000 (-10800), .once 1198983600 (-7200),
     .once 1200880800 (-10800),
     .yearly 2008 2009 [⟨3, .onOrAfter 0 8, 10800, -14400⟩, ⟨10, .onOrAfter 0 8, 14400, -10800⟩]]⟩),
   ("America/Argentina/Tucuman", ⟨-15652, [.once (-2372096348) (-15408),
     .once (-1567453392) (-14400), .once (-1233432000) (-10800), .once (-1222981200) (-14400),
     .once (-1205956800) (-10800),
     .yearly 1932 1939 [⟨3, .on 1, 10800, -14400⟩, ⟨11, .on 1, 14400, -10800⟩],
     .once (-941576400) (-14400), .once (-931032000) (-10800), .once (-900882000) (-14400),
     .once (-890337600) (-10800), .once (-833749200) (-14400), .once (-827265600) (-10800),
     .once (-752274000) (-14400), .once (-733780800) (-10800), .once (-197326800) (-14400),
     .once (-190843200) (-10800),
     .yearly 1964 1966 [⟨3, .on 1, 10800, -14400⟩, ⟨10, .on 15, 14400, -10800⟩],
     .yearly 1967 1969 [⟨4, .onOrAfter 0 1, 10800, -14400⟩, ⟨10, .onOrAfter 0 1, 14400, -10800⟩],
     .once 128142000 (-7200), .once 136605600 (-10800), .once 596948400 (-7200),
     .yearly 1989 1990 [⟨3, .onOrAfter 0 1, 7200, -10800⟩, ⟨10, .onOrAfter 0 15, 10800, -7200⟩],
     .once 667965600 (-14400), .once 687931200 (-7200), .once 699415200 (-10800),
     .once 719377200 (-7200), .once 731469600 (-10800), .once 1086058800 (-14400),
     .once 1087099200 (-10800), .once 1198983600 (-7200), .once 1205632800 (-10800),
     .once 1224385200 (-7200), .once 1237082400 (-10800)]⟩),
   ("America/Argentina/Ushuaia", ⟨-16392, [.once (-2372095608) (-15408),
     .once (-1567453392) (-14400), .once (-1233432000) (-10800), .once (-1222981200) (-14400),
     .once (-1205956800) (-10800),
     .yearly 1932 1939 [⟨3, .on 1, 10800, -14400⟩, ⟨11, .on 1, 14400, -10800⟩],
     .once (-941576400) (-14400), .once (-931032000) (-10800), .once (-900882000) (-14400),
     .once (-890337600) (-10800), .once (-833749200) (-14400), .once (-827265600) (-10800),
     .once (-752274000) (-14400), .once (-733780800) (-10800), .once (-197326800) (-14400),
     .once (-190843200) (-10800),
     .yearly 1964 1966 [⟨3, .on 1, 10800, -14400⟩, ⟨10, .on 15, 14400, -10800⟩],
     .yearly 1967 1969 [⟨4, .onOrAfter 0 1, 10800, -14400⟩, ⟨10, .onOrAfter 0 1, 14400, -10800⟩],
     .once 128142000 (-7200), .once 136605600 (-10800), .once 596948400 (-7200),
     .yearly 1989 1992 [⟨3, .onOrAfter 0 1, 7200, -10800⟩, ⟨10, .onOrAfter 0 15, 10800, -7200⟩],
     .once 731469600 (-10800), .once 1085886000 (-14400), .once 1087704000 (-10800),
     .once 1198983600 (-7200), .once 1205632800 (-10800)]⟩),
   ("America/Asuncion", ⟨-13840, [.once (-1206389360) (-14400), .once 86760000 (-10800),
     .once 134017200 (-14400), .once 181368000 (-10800),
     .yearly 1976 1978 [⟨3, .on 1, 10800, -14400⟩, ⟨10, .on 1, 14400, -10800⟩],
     .yearly 1979 1988 [⟨4, .on 1, 10800, -14400⟩, ⟨10, .on 1, 14400, -10800⟩],
     .once 607402800 (-14400), .once 625032000 (-10800), .once 638938800 (-14400),
     .once 654753600 (-10800), .once 670474800 (-14400), .once 686721600 (-10800),
     .once 699418800 (-14400), .once 718257600 (-10800), .once 733546800 (-14400),
     .once 749448000 (-10800),
     .yearly 1994 1995 [⟨2, .last 0, 10800, -14400⟩, ⟨10, .on 1, 14400, -10800⟩],
     .once 825649200 (-14400), .once 844574400 (-10800),
     .yearly 1997 1998 [⟨2, .last 6, 97200, -14400⟩, ⟨10, .onOrAfter 0 1, 14400, -10800⟩],
     .yearly 1999 2001 [⟨3, .onOrAfter 0 1, 10800, -14400⟩, ⟨10, .onOrAfter 0 1, 14400, -10800⟩],
     .yearly 2002 2003 [⟨4, .onOrAfter 0 1, 10800, -14400⟩, ⟨9, .onOrAfter 0 1, 14400, -10800⟩],
     .once 1081047600 (-14400), .once 1097985600 (-10800),
     .yearly 2005 2009 [⟨3, .onOrAfter 0 8, 10800, -14400⟩, ⟨10, .onOrAfter 0 15, 14400, -10800⟩],
     .yearly 2010 2012 [⟨4, .onOrAfter 0 8, 10800, -14400⟩, ⟨10, .onOrAfter 0 1, 14400, -10800⟩],
     .yearly 2013 2024 [⟨3, .onOrAfter 0 22, 10800, -14400⟩,
       ⟨10, .onOrAfter 0 1, 14400, -10800⟩]]⟩),
   ("America/Bahia", ⟨-9244, [.once (-1767216356) (-10800), .once (-1206957600) (-7200),
     .once (-1191362400) (-10800), .once (-1175374800) (-7200), .once (-1159826400) (-10800),
     .once (-633819600) (-7200), .once (-622069200) (-10800), .once (-602283600) (-7200),
     .yearly 1951 1952 [⟨4, .on 1, 7200, -10800⟩, ⟨12, .on 1, 10800, -7200⟩],
     .once (-531352800) (-10800), .once (-191365200) (-7200), .once (-184197600) (-10800),
     .once (-155163600) (-7200), .once (-150069600) (-10800), .once (-128898000) (-7200),
     .yearly 1966 1967 [⟨3, .on 1, 7200, -10800⟩, ⟨11, .on 1, 10800, -7200⟩],
     .once (-57967200) (-10800), .once 499748400 (-7200), .once 511236000 (-10800),
     .once 530593200 (-7200), .once 540266400 (-10800), .once 562129200 (-7200),
     .once 571197600 (-10800), .once 592974000 (-7200), .once 602042400 (-10800),
     .once 624423600 (-7200),
     .yearly 1990 1991 [⟨2, .onOrAfter 0 11, 7200, -10800⟩, ⟨10, .onOrAfter 0 15, 10800, -7200⟩],
     .once 697600800 (-10800), .once 719982000 (-7200), .once 728445600 (-10800),
     .once 750826800 (-7200),
     .yearly 1994 1995 [⟨2, .onOrAfter 0 15, 7200, -10800⟩, ⟨10, .onOrAfter 0 15, 10800, -7200⟩],
     .yearly 1996 1997 [⟨2, .onOrAfter 0 10, 7200, -10800⟩, ⟨10, .on 6, 10800, -7200⟩],
     .once 888717600 (-10800), .once 908074800 (-7200),
     .yearly 1999 2000 [⟨2, .onOrAfter 0 21, 7200, -10800⟩, ⟨10, .onOrAfter 0 2, 10800, -7200⟩],
     .once 982461600 (-10800), .once 1003028400 (-7200), .once 1013911200 (-10800),
     .once 1036292400 (-7200), .once 1045360800 (-10800), .once 1318734000 (-7200),
     .once 1330221600 (-10800)]⟩),
   ("America/Bahia_Banderas", ⟨-25260, [.once (-1514739600) (-25200),
     .once (-1343149200) (-21600), .once (-1234807200) (-25200), .once (-1220461200) (-21600),
     .once (-1207159200) (-25200), .once (-1191344400) (-21600), .once (-873828000) (-25200),
     .yearly 1996 2000 [⟨4, .onOrAfter 0 1, 32400, -21600⟩, ⟨10, .last 0, 28800, -25200⟩],
     .once 989139600 (-21600), .once 1001836800 (-25200),
     .yearly 2002 2009 [⟨4, .onOrAfter 0 1, 32400, -21600⟩, ⟨10, .last 0, 28800, -25200⟩],
     .once 1270371600 (-18000), .once 1288508400 (-21600),
     .yearly 2011 2022 [⟨4, .onOrAfter 0 1, 28800, -18000⟩, ⟨10, .last 0, 25200, -21600⟩]]⟩),
   ("America/Barbados", ⟨-14309, [.once (-1841256091) (-14400), .once (-874263600) (-10800),
     .once (-862682400) (-14400), .once (-841604400) (-10800), .once (-830714400) (-14400),
     .once (-811882800) (-12600), .once (-798660000) (-14400), .once 234943200 (-10800),
     .once 244616400 (-14400),
     .yearly 1978 1979 [⟨4, .onOrAfter 0 15, 21600, -10800⟩, ⟨9, .last 6, 104400, -14400⟩],
     .once 325058400 (-10800), .once 338706000 (-14400)]⟩),
   ("America/Belem", ⟨-11636, [.once (-1767213964) (-10800), .once (-1206957600) (-7200),
     .once (-1191362400) (-10800), .once (-1175374800) (-7200), .once (-1159826400) (-10800),
     .once (-633819600) (-7200), .once (-622069200) (-10800), .once (-602283600) (-7200),
     .yearly 1951 1952 [⟨4, .on 1, 7200, -10800⟩, ⟨12, .on 1, 10800, -7200⟩],
     .once (-531352800) (-10800), .once (-191365200) (-7200), .once (-184197600) (-10800),
     .once (-155163600) (-7200), .once (-150069600) (-10800), .once (-128898000) (-7200),
     .yearly 1966 1967 [⟨3, .on 1, 7200, -10800⟩, ⟨11, .on 1, 10800, -7200⟩],
     .once (-57967200) (-10800), .once 499748400 (-7200), .once 511236000 (-10800),
     .once 530593200 (-7200), .once 540266400 (-10800), .once 562129200 (-7200),
     .once 571197600 (-10800)]⟩),
   ("America/Belize", ⟨-21168, [.once (-1822500432) (-21600), .once (-1616954400) (-19800),
     .yearly 1919 1941 [⟨2, .onOrAfter 0 9, 19800, -21600⟩, ⟨10, .onOrAfter 0 2, 21600, -19800⟩],
     .once (-879705000) (-21600), .once (-868212000) (-18000), .once (-758746800) (-21600),
     .once (-701892000) (-19800),
     .yearly 1948 1967 [⟨2, .onOrAfter 0 9, 19800, -21600⟩, ⟨10, .onOrAfter 0 2, 21600, -19800⟩],
     .once (-59596200) (-21600), .once 123919200 (-18000), .once 129618000 (-21600),
     .once 409039200 (-18000), .once 413874000 (-21600)]⟩),
   ("America/Boa_Vista", ⟨-14560, [.once (-1767211040) (-14400), .once (-1206954000) (-10800),
     .once (-1191358800) (-14400), .once (-1175371200) (-10800), .once (-1159822800) (-14400),
     .once (-633816000) (-10800), .once (-622065600) (-14400), .once (-602280000) (-10800),
     .yearly 1951 1952 [⟨4, .on 1, 10800, -14400⟩, ⟨12, .on 1, 14400, -10800⟩],
     .once (-531349200) (-14400), .once (-191361600) (-10800), .once (-184194000) (-14400),
     .once (-155160000) (-10800), .once (-150066000) (-14400), .once (-128894400) (-10800),
     .yearly 1966 1967 [⟨3, .on 1, 10800, -14400⟩, ⟨11, .on 1, 14400, -10800⟩],
     .once (-57963600) (-14400), .once 499752000 (-10800), .once 511239600 (-14400),
     .once 530596800 (-10800), .once 540270000 (-14400), .once 562132800 (-10800),
     .once 571201200 (-14400), .once 938923200 (-10800), .once 951620400 (-14400),
     .once 970977600 (-10800), .once 971578800 (-14400)]⟩),
   ("America/Bogota", ⟨-17776, [.once (-1739041424) (-18000), .once 704869200 (-14400),
     .once 729057600 (-18000)]⟩),
   ("America/Boise", ⟨-27889, [.once (-2717640000) (-28800),
     .yearly 1918 1919 [⟨3, .last 0, 36000, -25200⟩, ⟨10, .last 0, 32400, -28800⟩],
     .once (-1471788000) (-25200), .once (-880210800) (-21600), .once (-765388800) (-25200),
     .yearly 1967 1973 [⟨4, .last 0, 32400, -21600⟩, ⟨10, .last 0, 28800, -25200⟩],
     .once 129114000 (-21600), .once 152092800 (-25200), .once 162378000 (-21600),
     .once 183542400 (-25200),
     .yearly 1976 1986 [⟨4, .last 0, 32400, -21600⟩, ⟨10, .last 0, 28800, -25200⟩],
     .yearly 1987 2006 [⟨4, .onOrAfter 0 1, 32400, -21600⟩, ⟨10, .last 0, 28800, -25200⟩],
     .yearly 2007 2099 [⟨3, .onOrAfter 0 8, 32400, -21600⟩, ⟨11, .onOrAfter 0 1, 28800, -25200⟩]]⟩),
   ("America/Cambridge_Bay", ⟨0, [.once (-1577923200) (-25200), .once (-880210800) (-21600),
     .once (-765388800) (-25200),
     .yearly 1972 1986 [⟨4, .last 0, 32400, -21600⟩, ⟨10, .last 0, 28800, -25200⟩],
     .yearly 1987 1998 [⟨4, .onOrAfter 0 1, 32400, -21600⟩, ⟨10, .last 0, 28800, -25200⟩],
     .once 923216400 (-21600), .once 954662400 (-18000), .once 973400400 (-21600),
     .once 1004256000 (-25200),
     .yearly 2002 2006 [⟨4, .onOrAfter 0 1, 32400, -21600⟩, ⟨10, .last 0, 28800, -25200⟩],
     .yearly 2007 2099 [⟨3, .onOrAfter 0 8, 32400, -21600⟩, ⟨11, .onOrAfter 0 1, 28800, -25200⟩]]⟩),
   ("America/Campo_Grande", ⟨-13108, [.once (-1767212492) (-14400),
     .once (-1206954000) (-10800), .once (-1191358800) (-14400), .once (-1175371200) (-10800),
     .once (-1159822800) (-14400), .once (-633816000) (-10800), .once (-622065600) (-14400),
     .once (-602280000) (-10800),
     .yearly 1951 1952 [⟨4, .on 1, 10800, -14400⟩, ⟨12, .on 1, 14400, -10800⟩],
     .once (-531349200) (-14400), .once (-191361600) (-10800), .once (-184194000) (-14400),
     .once (-155160000) (-10800), .once (-150066000) (-14400), .once (-128894400) (-10800),
     .yearly 1966 1967 [⟨3, .on 1, 10800, -14400⟩, ⟨11, .on 1, 14400, -10800⟩],
     .once (-57963600) (-14400), .once 499752000 (-10800), .once 511239600 (-14400),
     .once 530596800 (-10800), .once 540270000 (-14400), .once 562132800 (-10800),
     .once 571201200 (-14400), .once 592977600 (-10800), .once 602046000 (-14400),
     .once 624427200 (-10800),
     .yearly 1990 1991 [⟨2, .onOrAfter 0 11, 10800, -14400⟩, ⟨10, .onOrAfter 0 15, 14400, -10800⟩],
     .once 697604400 (-14400), .once 719985600 (-10800), .once 728449200 (-14400),
     .once 750830400 (-10800),
     .yearly 1994 1995 [⟨2, .onOrAfter 0 15, 10800, -14400⟩, ⟨10, .onOrAfter 0 15, 14400, -10800⟩],
     .yearly 1996 1997 [⟨2, .onOrAfter 0 10, 10800, -14400⟩, ⟨10, .on 6, 14400, -10800⟩],
     .once 888721200 (-14400), .once 908078400 (-10800),
     .yearly 1999 2000 [⟨2, .onOrAfter 0 21, 10800, -14400⟩, ⟨10, .onOrAfter 0 2, 14400, -10800⟩],
     .once 982465200 (-14400), .once 1003032000 (-10800), .once 1013914800 (-14400),
     .once 1036296000 (-10800), .once 1045364400 (-14400), .once 1066536000 (-10800),
     .once 1076814000 (-14400), .once 1099368000 (-10800), .once 1108868400 (-14400),
     .once 1129435200 (-10800), .once 1140318000 (-14400), .once 1162699200 (-10800),
     .once 1172372400 (-14400), .once 1192334400 (-10800),
     .yearly 2008 2011 [⟨2, .onOrAfter 0 15, 10800, -14400⟩, ⟨10, .onOrAfter 0 15, 14400, -10800⟩],
     .once 1330225200 (-14400), .once 1350792000 (-10800),
     .yearly 2013 2017 [⟨2, .onOrAfter 0 16, 10800, -14400⟩, ⟨10, .onOrAfter 0 15, 14400, -10800⟩],
     .once 1518922800 (-14400), .once 1541304000 (-10800), .once 1550372400 (-14400)]⟩),
   ("America/Cancun", ⟨-20824, [.once (-1514743200) (-21600), .once 378201600 (-18000),
     .once 410504400 (-21600), .once 828864000 (-18000), .once 846399600 (-21600),
     .once 860313600 (-18000), .once 891759600 (-14400), .once 902037600 (-18000),
     .once 909298800 (-21600),
     .yearly 1999 2000 [⟨4, .onOrAfter 0 1, 28800, -18000⟩, ⟨10, .last 0, 25200, -21600⟩],
     .once 989136000 (-18000), .once 1001833200 (-21600),
     .yearly 2002 2014 [⟨4, .onOrAfter 0 1, 28800, -18000⟩, ⟨10, .last 0, 25200, -21600⟩],
     .once 1422777600 (-18000)]⟩),
   ("America/Caracas", ⟨-16064, [.once (-2524505536) (-16060), .once (-1826739140) (-16200),
     .once (-157750200) (-14400), .once 1197183600 (-16200), .once 1462086000 (-14400)]⟩),
   ("America/Cayenne", ⟨-12560, [.once (-1846269040) (-14400), .once (-71092800) (-10800)]⟩),
   ("America/Chicago", ⟨-21036, [.once (-2717647200) (-21600),
     .yearly 1918 1919 [⟨3, .last 0, 28800, -18000⟩, ⟨10, .last 0, 25200, -21600⟩],
     .once (-1563724800) (-18000), .once (-1551632400) (-21600), .once (-1538928000) (-18000),
     .once (-1520182800) (-21600),
     .yearly 1922 1935 [⟨4, .last 0, 28800, -18000⟩, ⟨9, .last 0, 25200, -21600⟩],
     .once (-1067788800) (-18000), .once (-1045414800) (-21600),
     .yearly 1937 1941 [⟨4, .last 0, 28800, -18000⟩, ⟨9, .last 0, 25200, -21600⟩],
     .once (-880214400) (-18000), .once (-765392400) (-21600),
     .yearly 1946 1954 [⟨4, .last 0, 28800, -18000⟩, ⟨9, .last 0, 25200, -21600⟩],
     .yearly 1955 1973 [⟨4, .last 0, 28800, -18000⟩, ⟨10, .last 0, 25200, -21600⟩],
     .once 126691200 (-18000), .once 152089200 (-21600), .once 162374400 (-18000),
     .once 183538800 (-21600),
     .yearly 1976 1986 [⟨4, .last 0, 28800, -18000⟩, ⟨10, .last 0, 25200, -21600⟩],
     .yearly 1987 2006 [⟨4, .onOrAfter 0 1, 28800, -18000⟩, ⟨10, .last 0, 25200, -21600⟩],
     .yearly 2007 2099 [⟨3, .onOrAfter 0 8, 28800, -18000⟩, ⟨11, .onOrAfter 0 1, 25200, -21600⟩]]⟩),
   ("America/Chihuahua", ⟨-25460, [.once (-1514739600) (-25200), .once (-1343149200) (-21600),
     .once (-1234807200) (-25200), .once (-1220461200) (-21600), .once (-1207159200) (-25200),
     .once (-1191344400) (-21600),
     .yearly 1996 1997 [⟨4, .onOrAfter 0 1, 28800, -18000⟩, ⟨10, .last 0, 25200, -21600⟩],
     .once 909302400 (-25200),
     .yearly 1999 2000 [⟨4, .onOrAfter 0 1, 32400, -21600⟩, ⟨10, .last 0, 28800, -25200⟩],
     .once 989139600 (-21600), .once 1001836800 (-25200),
     .yearly 2002 2021 [⟨4, .onOrAfter 0 1, 32400, -21600⟩, ⟨10, .last 0, 28800, -25200⟩],
     .once 1648976400 (-21600)]⟩),
   ("America/Ciudad_Juarez", ⟨-25556, [.once (-1514739600) (-25200),
     .once (-1343149200) (-21600), .once (-1234807200) (-25200), .once (-1220461200) (-21600),
     .once (-1207159200) (-25200), .once (-1191344400) (-21600),
     .yearly 1996 1997 [⟨4, .onOrAfter 0 1, 28800, -18000⟩, ⟨10, .last 0, 25200, -21600⟩],
     .once 909302400 (-25200),
     .yearly 1999 2000 [⟨4, .onOrAfter 0 1, 32400, -21600⟩, ⟨10, .last 0, 28800, -25200⟩],
     .once 989139600 (-21600), .once 1001836800 (-25200),
     .yearly 2002 2009 [⟨4, .onOrAfter 0 1, 32400, -21600⟩, ⟨10, .last 0, 28800, -25200⟩],
     .yearly 2010 2021 [⟨3, .onOrAfter 0 8, 32400, -21600⟩, ⟨11, .onOrAfter 0 1, 28800, -25200⟩],
     .once 1647162000 (-21600), .once 1669788000 (-25200),
     .yearly 2023 2099 [⟨3, .onOrAfter 0 8, 32400, -21600⟩, ⟨11, .onOrAfter 0 1, 28800, -25200⟩]]⟩),
   ("America/Costa_Rica", ⟨-20173, [.once (-1545071027) (-21600),
     .yearly 1979 1980 [⟨2, .last 0, 21600, -18000⟩, ⟨6, .onOrAfter 0 1, 18000, -21600⟩],
     .once 664264800 (-18000), .once 678344400 (-21600), .once 695714400 (-18000),
     .once 700635600 (-21600)]⟩),
   ("America/Coyhaique", ⟨-17296, [.once (-2524504304) (-16965), .once (-1892661435) (-18000),
     .once (-1688410800) (-16965), .once (-1619205435) (-14400), .once (-1593806400) (-16965),
     .once (-1335986235) (-14400),
     .yearly 1928 1932 [⟨4, .on 1, 14400, -18000⟩, ⟨9, .on 1, 18000, -14400⟩],
     .once (-870552000) (-18000), .once (-865278000) (-14400), .once (-718056000) (-18000),
     .once (-713649600) (-14400), .once (-36619200) (-10800), .once (-23922000) (-14400),
     .once (-3355200) (-10800), .once 7527600 (-14400), .once 24465600 (-10800),
     .yearly 1971 1972 [⟨3, .onOrAfter 0 8, 10800, -14400⟩, ⟨10, .onOrAfter 0 10, 14400, -10800⟩],
     .once 100666800 (-14400), .once 118209600 (-10800),
     .yearly 1974 1986 [⟨3, .onOrAfter 0 9, 10800, -14400⟩, ⟨10, .onOrAfter 0 9, 14400, -10800⟩],
     .once 545194800 (-14400), .once 560923200 (-10800),
     .yearly 1988 1989 [⟨3, .onOrAfter 0 8, 10800, -14400⟩, ⟨10, .onOrAfter 0 9, 14400, -10800⟩],
     .once 637124400 (-14400), .once 653457600 (-10800),
     .yearly 1991 1996 [⟨3, .onOrAfter 0 10, 10800, -14400⟩, ⟨10, .onOrAfter 0 9, 14400, -10800⟩],
     .once 859690800 (-14400), .once 876628800 (-10800), .once 889930800 (-14400),
     .once 906868800 (-10800), .once 923194800 (-14400), .once 939528000 (-10800),
     .yearly 2000 2007 [⟨3, .onOrAfter 0 8, 10800, -14400⟩, ⟨10, .onOrAfter 0 9, 14400, -10800⟩],
     .once 1206846000 (-14400), .once 1223784000 (-10800), .once 1237086000 (-14400),
     .once 1255233600 (-10800), .once 1270350000 (-14400), .once 1286683200 (-10800),
     .once 1304823600 (-14400), .once 1313899200 (-10800),
     .yearly 2012 2014 [⟨4, .last 0, 10800, -14400⟩, ⟨9, .onOrAfter 0 2, 14400, -10800⟩],
     .yearly 2016 2018 [⟨5, .onOrAfter 0 10, 10800, -14400⟩, ⟨8, .onOrAfter 0 8, 14400, -10800⟩],
     .yearly 2019 2022 [⟨4, .onOrAfter 0 1, 10800, -14400⟩, ⟨9, .onOrAfter 0 5, 14400, -10800⟩],
     .yearly 2023 2024 [⟨4, .onOrAfter 0 1, 10800, -14400⟩, ⟨9, .onOrAfter 0 2, 14400, -10800⟩]]⟩),
   ("America/Cuiaba", ⟨-13460, [.once (-1767212140) (-14400), .once (-1206954000) (-10800),
     .once (-1191358800) (-14400), .once (-1175371200) (-10800), .once (-1159822800) (-14400),
     .once (-633816000) (-10800), .once (-622065600) (-14400), .once (-602280000) (-10800),
     .yearly 1951 1952 [⟨4, .on 1, 10800, -14400⟩, ⟨12, .on 1, 14400, -10800⟩],
     .once (-531349200) (-14400), .once (-191361600) (-10800), .once (-184194000) (-14400),
     .once (-155160000) (-10800), .once (-150066000) (-14400), .once (-128894400) (-10800),
     .yearly 1966 1967 [⟨3, .on 1, 10800, -14400⟩, ⟨11, .on 1, 14400, -10800⟩],
     .once (-57963600) (-14400), .once 499752000 (-10800), .once 511239600 (-14400),
     .once 530596800 (-10800), .once 540270000 (-14400), .once 562132800 (-10800),
     .once 571201200 (-14400), .once 592977600 (-10800), .once 602046000 (-14400),
     .once 624427200 (-10800),
     .yearly 1990 1991 [⟨2, .onOrAfter 0 11, 10800, -14400⟩, ⟨10, .onOrAfter 0 15, 14400, -10800⟩],
     .once 697604400 (-14400), .once 719985600 (-10800), .once 728449200 (-14400),
     .once 750830400 (-10800),
     .yearly 1994 1995 [⟨2, .onOrAfter 0 15, 10800, -14400⟩, ⟨10, .onOrAfter 0 15, 14400, -10800⟩],
     .yearly 1996 1997 [⟨2, .onOrAfter 0 10, 10800, -14400⟩, ⟨10, .on 6, 14400, -10800⟩],
     .once 888721200 (-14400), .once 908078400 (-10800),
     .yearly 1999 2000 [⟨2, .onOrAfter 0 21, 10800, -14400⟩, ⟨10, .onOrAfter 0 2, 14400, -10800⟩],
     .once 982465200 (-14400), .once 1003032000 (-10800), .once 1013914800 (-14400),
     .once 1036296000 (-10800), .once 1045364400 (-14400), .once 1099368000 (-10800),
     .once 1108868400 (-14400), .once 1129435200 (-10800), .once 1140318000 (-14400),
     .once 1162699200 (-10800), .once 1172372400 (-14400), .once 1192334400 (-10800),
     .yearly 2008 2011 [⟨2, .onOrAfter 0 15, 10800, -14400⟩, ⟨10, .onOrAfter 0 15, 14400, -10800⟩],
     .once 1330225200 (-14400), .once 1350792000 (-10800),
     .yearly 2013 2017 [⟨2, .onOrAfter 0 16, 10800, -14400⟩, ⟨10, .onOrAfter 0 15, 14400, -10800⟩],
     .once 1518922800 (-14400), .once 1541304000 (-10800), .once 1550372400 (-14400)]⟩),
   ("America/Danmarkshavn", ⟨-4480, [.once (-1686091520) (-10800), .once 323845200 (-7200),
     .once 338950800 (-10800),
     .yearly 1981 1995 [⟨3, .last 0, 3600, -7200⟩, ⟨9, .last 0, 3600, -10800⟩],
     .once 820465200 0]⟩),
   ("America/Dawson", ⟨-33460, [.once (-2188996940) (-32400), .once (-1632056400) (-28800),
     .once (-1615125600) (-32400), .once (-1596978000) (-28800), .once (-1583164800) (-32400),
     .once (-880203600) (-28800), .once (-765381600) (-32400), .once (-147884400) (-25200),
     .once (-131554800) (-32400), .once 120646800 (-28800),
     .yearly 1980 1986 [⟨4, .last 0, 36000, -25200⟩, ⟨10, .last 0, 32400, -28800⟩],
     .yearly 1987 2006 [⟨4, .onOrAfter 0 1, 36000, -25200⟩, ⟨10, .last 0, 32400, -28800⟩],
     .yearly 2007 2019 [⟨3, .onOrAfter 0 8, 36000, -25200⟩, ⟨11, .onOrAfter 0 1, 32400, -28800⟩],
     .once 1583661600 (-25200)]⟩),
   ("America/Dawson_Creek", ⟨-28856, [.once (-2713881544) (-28800),
     .once (-1632060000) (-25200), .once (-1615129200) (-28800), .once (-880207200) (-25200),
     .once (-765385200) (-28800),
     .yearly 1947 1961 [⟨4, .last 0, 36000, -25200⟩, ⟨9, .last 0, 32400, -28800⟩],
     .yearly 1962 1971 [⟨4, .last 0, 36000, -25200⟩, ⟨10, .last 0, 32400, -28800⟩],
     .once 73476000 (-25200)]⟩),
   ("America/Denver", ⟨-25196, [.once (-2717643600) (-25200),
     .yearly 1918 1920 [⟨3, .last 0, 32400, -21600⟩, ⟨10, .last 0, 28800, -25200⟩],
     .once (-1538924400) (-21600), .once (-1534089600) (-25200), .once (-880210800) (-21600),
     .once (-765388800) (-25200),
     .yearly 1965 1973 [⟨4, .last 0, 32400, -21600⟩, ⟨10, .last 0, 28800, -25200⟩],
     .once 126694800 (-21600), .once 152092800 (-25200), .once 162378000 (-21600),
     .once 183542400 (-25200),
     .yearly 1976 1986 [⟨4, .last 0, 32400, -21600⟩, ⟨10, .last 0, 28800, -25200⟩],
     .yearly 1987 2006 [⟨4, .onOrAfter 0 1, 32400, -21600⟩, ⟨10, .last 0, 28800, -25200⟩],
     .yearly 2007 2099 [⟨3, .onOrAfter 0 8, 32400, -21600⟩, ⟨11, .onOrAfter 0 1, 28800, -25200⟩]]⟩),
   ("America/Detroit", ⟨-19931, [.once (-2051202469) (-21600), .once (-1724083200) (-18000),
     .once (-880218000) (-14400), .once (-765396000) (-18000), .once (-684349200) (-14400),
     .once (-671047200) (-18000), .once (-80506740) (-14400), .once (-68666400) (-18000),
     .once (-52938000) (-14400), .once (-37216800) (-18000), .once 104914800 (-14400),
     .once 120636000 (-18000), .once 126687600 (-14400), .once 152085600 (-18000),
     .yearly 1975 1986 [⟨4, .last 0, 25200, -14400⟩, ⟨10, .last 0, 21600, -18000⟩],
     .yearly 1987 2006 [⟨4, .onOrAfter 0 1, 25200, -14400⟩, ⟨10, .last 0, 21600, -18000⟩],
     .yearly 2007 2099 [⟨3, .onOrAfter 0 8, 25200, -14400⟩, ⟨11, .onOrAfter 0 1, 21600, -18000⟩]]⟩),
   ("America/Edmonton", ⟨-27232, [.once (-1998663968) (-25200), .once (-1632063600) (-21600),
     .once (-1615132800) (-25200), .once (-1600614000) (-21600), .once (-1596816000) (-25200),
     .once (-1567954800) (-21600), .once (-1551628800) (-25200),
     .yearly 1921 1923 [⟨4, .last 0, 32400, -21600⟩, ⟨9, .last 0, 28800, -25200⟩],
     .once (-880210800) (-21600), .once (-765388800) (-25200), .once (-715791600) (-21600),
     .once (-702489600) (-25200),
     .yearly 1972 1986 [⟨4, .last 0, 32400, -21600⟩, ⟨10, .last 0, 28800, -25200⟩],
     .yearly 1987 2006 [⟨4, .onOrAfter 0 1, 32400, -21600⟩, ⟨10, .last 0, 28800, -25200⟩],
     .yearly 2007 2099 [⟨3, .onOrAfter 0 8, 32400, -21600⟩, ⟨11, .onOrAfter 0 1, 28800, -25200⟩]]⟩),
   ("America/Eirunepe", ⟨-16768, [.once (-1767208832) (-18000), .once (-1206950400) (-14400),
     .once (-1191355200) (-18000), .once (-1175367600) (-14400), .once (-1159819200) (-18000),
     .once (-633812400) (-14400), .once (-622062000) (-18000), .once (-602276400) (-14400),
     .yearly 1951 1952 [⟨4, .on 1, 14400, -18000⟩, ⟨12, .on 1, 18000, -14400⟩],
     .once (-531345600) (-18000), .once (-191358000) (-14400), .once (-184190400) (-18000),
     .once (-155156400) (-14400), .once (-150062400) (-18000), .once (-128890800) (-14400),
     .yearly 1966 1967 [⟨3, .on 1, 14400, -18000⟩, ⟨11, .on 1, 18000, -14400⟩],
     .once (-57960000) (-18000), .once 499755600 (-14400), .once 511243200 (-18000),
     .once 530600400 (-14400), .once 540273600 (-18000), .once 562136400 (-14400),
     .once 571204800 (-18000), .once 750834000 (-14400), .once 761716800 (-18000),
     .once 1214283600 (-14400), .once 1384056000 (-18000)]⟩),
   ("America/El_Salvador", ⟨-21408, [.once (-1546279392) (-21600),
     .yearly 1987 1988 [⟨5, .onOrAfter 0 1, 21600, -18000⟩, ⟨9, .last 0, 18000, -21600⟩]]⟩),
   ("America/Fort_Nelson", ⟨-29447, [.once (-2713880953) (-28800), .once (-1632060000) (-25200),
     .once (-1615129200) (-28800), .once (-880207200) (-25200), .once (-765385200) (-28800),
     .yearly 1947 1961 [⟨4, .last 0, 36000, -25200⟩, ⟨9, .last 0, 32400, -28800⟩],
     .yearly 1962 1986 [⟨4, .last 0, 36000, -25200⟩, ⟨10, .last 0, 32400, -28800⟩],
     .yearly 1987 2006 [⟨4, .onOrAfter 0 1, 36000, -25200⟩, ⟨10, .last 0, 32400, -28800⟩],
     .yearly 2007 2014 [⟨3, .onOrAfter 0 8, 36000, -25200⟩, ⟨11, .onOrAfter 0 1, 32400, -28800⟩],
     .once 1425808800 (-25200)]⟩),
   ("America/Fortaleza", ⟨-9240, [.once (-1767216360) (-10800), .once (-1206957600) (-7200),
     .once (-1191362400) (-10800), .once (-1175374800) (-7200), .once (-1159826400) (-10800),
     .once (-633819600) (-7200), .once (-622069200) (-10800), .once (-602283600) (-7200),
     .yearly 1951 1952 [⟨4, .on 1, 7200, -10800⟩, ⟨12, .on 1, 10800, -7200⟩],
     .once (-531352800) (-10800), .once (-191365200) (-7200), .once (-184197600) (-10800),
     .once (-155163600) (-7200), .once (-150069600) (-10800), .once (-128898000) (-7200),
     .yearly 1966 1967 [⟨3, .on 1, 7200, -10800⟩, ⟨11, .on 1, 10800, -7200⟩],
     .once (-57967200) (-10800), .once 499748400 (-7200), .once 511236000 (-10800),
     .once 530593200 (-7200), .once 540266400 (-10800), .once 562129200 (-7200),
     .once 571197600 (-10800), .once 592974000 (-7200), .once 602042400 (-10800),
     .once 624423600 (-7200), .once 634701600 (-10800), .once 938919600 (-7200),
     .once 951616800 (-10800), .once 970974000 (-7200), .once 972180000 (-10800),
     .once 1003028400 (-7200), .once 1013911200 (-10800)]⟩),
   ("America/Glace_Bay", ⟨-14388, [.once (-2131646412) (-14400), .once (-1632074400) (-10800),
     .once (-1615143600) (-14400), .once (-880221600) (-10800), .once (-765399600) (-14400),
     .once (-526500000) (-10800), .once (-513198000) (-14400),
     .yearly 1972 1986 [⟨4, .last 0, 21600, -10800⟩, ⟨10, .last 0, 18000, -14400⟩],
     .yearly 1987 2006 [⟨4, .onOrAfter 0 1, 21600, -10800⟩, ⟨10, .last 0, 18000, -14400⟩],
     .yearly 2007 2099 [⟨3, .onOrAfter 0 8, 21600, -10800⟩, ⟨11, .onOrAfter 0 1, 18000, -14400⟩]]⟩),
   ("America/Goose_Bay", ⟨-14500, [.once (-2713895900) (-12652), .once (-1632076148) (-9052),
     .once (-1615145348) (-12652), .once (-1096921748) (-12600),
     .yearly 1936 1941 [⟨5, .onOrAfter 1 9, 12600, -9000⟩, ⟨10, .onOrAfter 1 1, 9000, -12600⟩],
     .once (-872368200) (-9000), .once (-765401400) (-12600),
     .yearly 1946 1950 [⟨5, .onOrAfter 0 8, 19800, -9000⟩, ⟨10, .onOrAfter 0 2, 16200, -12600⟩],
     .yearly 1951 1959 [⟨4, .last 0, 19800, -9000⟩, ⟨9, .last 0, 16200, -12600⟩],
     .yearly 1960 1965 [⟨4, .last 0, 19800, -9000⟩, ⟨10, .last 0, 16200, -12600⟩],
     .once (-119903400) (-14400),
     .yearly 1966 1986 [⟨4, .last 0, 21600, -10800⟩, ⟨10, .last 0, 18000, -14400⟩],
     .once 544593660 (-10800), .once 562129260 (-14400), .once 576043260 (-7200),
     .once 594180060 (-14400),
     .yearly 1989 2006 [⟨4, .onOrAfter 0 1, 14460, -10800⟩, ⟨10, .last 0, 10860, -14400⟩],
     .yearly 2007 2010 [⟨3, .onOrAfter 0 8, 14460, -10800⟩, ⟨11, .onOrAfter 0 1, 10860, -14400⟩],
     .once 1299988860 (-10800), .once 1320555600 (-14400),
     .yearly 2012 2099 [⟨3, .onOrAfter 0 8, 21600, -10800⟩, ⟨11, .onOrAfter 0 1, 18000, -14400⟩]]⟩),
   ("America/Grand_Turk", ⟨-17072, [.once (-2524504528) (-18430), .once (-1827687170) (-18000),
     .yearly 1979 1986 [⟨4, .last 0, 25200, -14400⟩, ⟨10, .last 0, 21600, -18000⟩],
     .yearly 1987 2006 [⟨4, .onOrAfter 0 1, 25200, -14400⟩, ⟨10, .last 0, 21600, -18000⟩],
     .yearly 2007 2014 [⟨3, .onOrAfter 0 8, 25200, -14400⟩, ⟨11, .onOrAfter 0 1, 21600, -18000⟩],
     .once 1425798000 (-14400), .once 1541311200 (-18000),
     .yearly 2019 2099 [⟨3, .onOrAfter 0 8, 25200, -14400⟩, ⟨11, .onOrAfter 0 1, 21600, -18000⟩]]⟩),
   ("America/Guatemala", ⟨-21724, [.once (-1617040676) (-21600), .once 123055200 (-18000),
     .once 130914000 (-21600), .once 422344800 (-18000), .once 433054800 (-21600),
     .once 669708000 (-18000), .once 684219600 (-21600), .once 1146376800 (-18000),
     .once 1159678800 (-21600)]⟩),
   ("America/Guayaquil", ⟨-19160, [.once (-2524502440) (-18840), .once (-1230749160) (-18000),
     .once 722926800 (-14400), .once 728884800 (-18000)]⟩),
   ("America/Guyana", ⟨-13959, [.once (-1843589241) (-14400), .once (-1730577600) (-13500),
     .once 176096700 (-10800), .once 701841600 (-14400)]⟩),
   ("America/Halifax", ⟨-15264, [.once (-2131645536) (-14400), .once (-1696276800) (-10800),
     .once (-1680469200) (-14400), .once (-1632074400) (-10800), .once (-1615143600) (-14400),
     .once (-1566763200) (-10800), .once (-1557090000) (-14400), .once (-1535486400) (-10800),
     .once (-1524949200) (-14400), .once (-1504468800) (-10800), .once (-1493413200) (-14400),
     .once (-1472414400) (-10800), .once (-1461963600) (-14400), .once (-1440964800) (-10800),
     .once (-1429390800) (-14400), .once (-1409515200) (-10800), .once (-1396731600) (-14400),
     .once (-1376856000) (-10800), .once (-1366491600) (-14400), .once (-1346616000) (-10800),
     .once (-1333832400) (-14400), .once (-1313956800) (-10800), .once (-1303678800) (-14400),
     .once (-1282507200) (-10800), .once (-1272661200) (-14400), .once (-1251057600) (-10800),
     .once (-1240088400) (-14400), .once (-1219608000) (-10800), .once (-1207429200) (-14400),
     .yearly 1932 1933 [⟨4, .last 6, 100800, -10800⟩, ⟨9, .last 6, 183600, -14400⟩],
     .once (-1124049600) (-10800), .once (-1113771600) (-14400), .once (-1091390400) (-10800),
     .once (-1081026000) (-14400), .once (-1059854400) (-10800), .once (-1050786000) (-14400),
     .yearly 1937 1938 [⟨5, .onOrAfter 0 1, 14400, -10800⟩, ⟨9, .last 1, 10800, -14400⟩],
     .once (-965592000) (-10800), .once (-955227600) (-14400),
     .yearly 1940 1941 [⟨5, .onOrAfter 0 1, 14400, -10800⟩, ⟨9, .last 1, 10800, -14400⟩],
     .once (-880221600) (-10800), .once (-765399600) (-14400),
     .yearly 1946 1949 [⟨4, .last 0, 21600, -10800⟩, ⟨9, .last 0, 18000, -14400⟩],
     .yearly 1951 1954 [⟨4, .last 0, 21600, -10800⟩, ⟨9, .last 0, 18000, -14400⟩],
     .yearly 1956 1959 [⟨4, .last 0, 21600, -10800⟩, ⟨9, .last 0, 18000, -14400⟩],
     .yearly 1962 1986 [⟨4, .last 0, 21600, -10800⟩, ⟨10, .last 0, 18000, -14400⟩],
     .yearly 1987 2006 [⟨4, .onOrAfter 0 1, 21600, -10800⟩, ⟨10, .last 0, 18000, -14400⟩],
     .yearly 2007 2099 [⟨3, .onOrAfter 0 8, 21600, -10800⟩, ⟨11, .onOrAfter 0 1, 18000, -14400⟩]]⟩),
   ("America/Havana", ⟨-19768, [.once (-2524501832) (-19776), .once (-1402813824) (-18000),
     .once (-1311534000) (-14400), .once (-1300996800) (-18000),
     .yearly 1940 1942 [⟨6, .onOrAfter 0 1, 18000, -14400⟩, ⟨9, .onOrAfter 0 1, 14400, -18000⟩],
     .yearly 1945 1946 [⟨6, .onOrAfter 0 1, 18000, -14400⟩, ⟨9, .onOrAfter 0 1, 14400, -18000⟩],
     .once (-144702000) (-14400), .once (-134251200) (-18000), .once (-113425200) (-14400),
     .once (-102542400) (-18000), .once (-86295600) (-14400), .once (-72907200) (-18000),
     .once (-54154800) (-14400), .once (-41457600) (-18000),
     .yearly 1969 1971 [⟨4, .last 0, 18000, -14400⟩, ⟨10, .last 0, 14400, -18000⟩],
     .yearly 1972 1974 [⟨4, .last 0, 18000, -14400⟩, ⟨10, .on 8, 14400, -18000⟩],
     .yearly 1975 1977 [⟨4, .last 0, 18000, -14400⟩, ⟨10, .last 0, 14400, -18000⟩],
     .once 263365200 (-14400), .once 276667200 (-18000),
     .yearly 1979 1980 [⟨3, .onOrAfter 0 15, 18000, -14400⟩, ⟨10, .onOrAfter 0 8, 14400, -18000⟩],
     .yearly 1981 1985 [⟨5, .onOrAfter 0 4, 18000, -14400⟩, ⟨10, .onOrAfter 0 8, 14400, -18000⟩],
     .yearly 1986 1989 [⟨3, .onOrAfter 0 15, 18000, -14400⟩, ⟨10, .onOrAfter 0 8, 14400, -18000⟩],
     .once 638946000 (-14400), .once 655876800 (-18000),
     .yearly 1991 1995 [⟨4, .onOrAfter 0 1, 18000, -14400⟩, ⟨10, .onOrAfter 0 8, 18000, -18000⟩],
     .yearly 1996 1997 [⟨4, .onOrAfter 0 1, 18000, -14400⟩, ⟨10, .onOrAfter 0 6, 18000, -18000⟩],
     .yearly 1998 1999 [⟨3, .last 0, 18000, -14400⟩, ⟨10, .last 0, 18000, -18000⟩],
     .yearly 2000 2003 [⟨4, .onOrAfter 0 1, 18000, -14400⟩, ⟨10, .last 0, 18000, -18000⟩],
     .once 1080450000 (-14400), .once 1162098000 (-18000),
     .yearly 2007 2008 [⟨3, .onOrAfter 0 10, 18000, -14400⟩, ⟨10, .last 0, 18000, -18000⟩],
     .yearly 2009 2010 [⟨3, .onOrAfter 0 8, 18000, -14400⟩, ⟨10, .last 0, 18000, -18000⟩],
     .once 1300597200 (-14400), .once 1321160400 (-18000), .once 1333256400 (-14400),
     .once 1352005200 (-18000),
     .yearly 2013 2099 [⟨3, .onOrAfter 0 8, 18000, -14400⟩, ⟨11, .onOrAfter 0 1, 18000, -18000⟩]]⟩),
   ("America/Hermosillo", ⟨-26632, [.once (-1514739600) (-25200), .once (-1343149200) (-21600),
     .once (-1234807200) (-25200), .once (-1220461200) (-21600), .once (-1207159200) (-25200),
     .once (-1191344400) (-21600), .once (-873828000) (-25200),
     .yearly 1996 1998 [⟨4, .onOrAfter 0 1, 32400, -21600⟩, ⟨10, .last 0, 28800, -25200⟩]]⟩),
   ("America/Indiana/Indianapolis", ⟨-20678, [.once (-2717647200) (-21600),
     .yearly 1918 1919 [⟨3, .last 0, 28800, -18000⟩, ⟨10, .last 0, 25200, -21600⟩],
     .once (-900259200) (-18000), .once (-891795600) (-21600), .once (-880214400) (-18000),
     .once (-765392400) (-21600),
     .yearly 1946 1954 [⟨4, .last 0, 28800, -18000⟩, ⟨9, .last 0, 25200, -21600⟩],
     .once (-463593600) (-18000), .once (-386787600) (-21600), .once (-368640000) (-18000),
     .yearly 1969 1970 [⟨4, .last 0, 25200, -14400⟩, ⟨10, .last 0, 21600, -18000⟩],
     .once 1143961200 (-14400), .once 1162101600 (-18000),
     .yearly 2007 2099 [⟨3, .onOrAfter 0 8, 25200, -14400⟩, ⟨11, .onOrAfter 0 1, 21600, -18000⟩]]⟩),
   ("America/Indiana/Knox", ⟨-20790, [.once (-2717647200) (-21600),
     .yearly 1918 1919 [⟨3, .last 0, 28800, -18000⟩, ⟨10, .last 0, 25200, -21600⟩],
     .once (-880214400) (-18000), .once (-765392400) (-21600),
     .yearly 1947 1954 [⟨4, .last 0, 28800, -18000⟩, ⟨9, .last 0, 25200, -21600⟩],
     .yearly 1955 1956 [⟨4, .last 0, 28800, -18000⟩, ⟨10, .last 0, 25200, -21600⟩],
     .yearly 1957 1958 [⟨4, .last 0, 28800, -18000⟩, ⟨9, .last 0, 25200, -21600⟩],
     .yearly 1959 1961 [⟨4, .last 0, 28800, -18000⟩, ⟨10, .last 0, 25200, -21600⟩],
     .once (-242236800) (-18000), .once (-195066000) (-21600),
     .yearly 1967 1973 [⟨4, .last 0, 28800, -18000⟩, ⟨10, .last 0, 25200, -21600⟩],
     .once 126691200 (-18000), .once 152089200 (-21600), .once 162374400 (-18000),
     .once 183538800 (-21600),
     .yearly 1976 1986 [⟨4, .last 0, 28800, -18000⟩, ⟨10, .last 0, 25200, -21600⟩],
     .yearly 1987 1990 [⟨4, .onOrAfter 0 1, 28800, -18000⟩, ⟨10, .last 0, 25200, -21600⟩],
     .once 671011200 (-18000), .once 1162105200 (-21600),
     .yearly 2007 2099 [⟨3, .onOrAfter 0 8, 28800, -18000⟩, ⟨11, .onOrAfter 0 1, 25200, -21600⟩]]⟩),
   ("America/Indiana/Marengo", ⟨-20723, [.once (-2717647200) (-21600),
     .yearly 1918 1919 [⟨3, .last 0, 28800, -18000⟩, ⟨10, .last 0, 25200, -21600⟩],
     .once (-880214400) (-18000), .once (-765392400) (-21600), .once (-589392000) (-18000),
     .once (-576090000) (-21600),
     .yearly 1954 1960 [⟨4, .last 0, 28800, -18000⟩, ⟨9, .last 0, 25200, -21600⟩],
     .once (-273686400) (-18000),
     .yearly 1969 1973 [⟨4, .last 0, 25200, -14400⟩, ⟨10, .last 0, 21600, -18000⟩],
     .once 162370800 (-14400), .once 183535200 (-18000), .once 1143961200 (-14400),
     .once 1162101600 (-18000),
     .yearly 2007 2099 [⟨3, .onOrAfter 0 8, 25200, -14400⟩, ⟨11, .onOrAfter 0 1, 21600, -18000⟩]]⟩),
   ("America/Indiana/Petersburg", ⟨-20947, [.once (-2717647200) (-21600),
     .yearly 1918 1919 [⟨3, .last 0, 28800, -18000⟩, ⟨10, .last 0, 25200, -21600⟩],
     .once (-880214400) (-18000), .once (-765392400) (-21600), .once (-462996000) (-18000),
     .once (-450291600) (-21600),
     .yearly 1956 1960 [⟨4, .last 0, 28800, -18000⟩, ⟨9, .last 0, 25200, -21600⟩],
     .yearly 1961 1964 [⟨4, .last 0, 28800, -18000⟩, ⟨10, .last 0, 25200, -21600⟩],
     .once (-147888000) (-18000), .once (-100112400) (-21600),
     .yearly 1967 1973 [⟨4, .last 0, 28800, -18000⟩, ⟨10, .last 0, 25200, -21600⟩],
     .once 126691200 (-18000), .once 152089200 (-21600), .once 162374400 (-18000),
     .once 183538800 (-21600), .once 199267200 (-18000), .once 215593200 (-21600),
     .once 230716800 (-18000), .once 1162105200 (-21600), .once 1173600000 (-18000),
     .yearly 2008 2099 [⟨3, .onOrAfter 0 8, 25200, -14400⟩, ⟨11, .onOrAfter 0 1, 21600, -18000⟩]]⟩),
   ("America/Indiana/Tell_City", ⟨-20823, [.once (-2717647200) (-21600),
     .yearly 1918 1919 [⟨3, .last 0, 28800, -18000⟩, ⟨10, .last 0, 25200, -21600⟩],
     .once (-880214400) (-18000), .once (-765392400) (-21600), .once (-462996000) (-18000),
     .once (-450291600) (-21600),
     .yearly 1956 1960 [⟨4, .last 0, 28800, -18000⟩, ⟨9, .last 0, 25200, -21600⟩],
     .yearly 1961 1963 [⟨4, .last 0, 28800, -18000⟩, ⟨10, .last 0, 25200, -21600⟩],
     .once (-179337600) (-18000), .once (-68662800) (-21600), .once (-52934400) (-18000),
     .once (-37213200) (-21600), .once (-21484800) (-14400), .once (-5767200) (-18000),
     .once 9961200 (-14400), .once 25682400 (-18000), .once 1162105200 (-21600),
     .yearly 2007 2099 [⟨3, .onOrAfter 0 8, 28800, -18000⟩, ⟨11, .onOrAfter 0 1, 25200, -21600⟩]]⟩),
   ("America/Indiana/Vevay", ⟨-20416, [.once (-2717647200) (-21600),
     .yearly 1918 1919 [⟨3, .last 0, 28800, -18000⟩, ⟨10, .last 0, 25200, -21600⟩],
     .once (-880214400) (-18000), .once (-765392400) (-21600), .once (-495043200) (-18000),
     .yearly 1969 1972 [⟨4, .last 0, 25200, -14400⟩, ⟨10, .last 0, 21600, -18000⟩],
     .once 1143961200 (-14400), .once 1162101600 (-18000),
     .yearly 2007 2099 [⟨3, .onOrAfter 0 8, 25200, -14400⟩, ⟨11, .onOrAfter 0 1, 21600, -18000⟩]]⟩),
   ("America/Indiana/Vincennes", ⟨-21007, [.once (-2717647200) (-21600),
     .yearly 1918 1919 [⟨3, .last 0, 28800, -18000⟩, ⟨10, .last 0, 25200, -21600⟩],
     .once (-880214400) (-18000), .once (-765392400) (-21600), .once (-747244800) (-18000),
     .once (-733942800) (-21600),
     .yearly 1953 1954 [⟨4, .last 0, 28800, -18000⟩, ⟨9, .last 0, 25200, -21600⟩],
     .once (-462996000) (-18000), .once (-450291600) (-21600),
     .yearly 1956 1959 [⟨4, .last 0, 28800, -18000⟩, ⟨9, .last 0, 25200, -21600⟩],
     .once (-305740800) (-18000), .once (-289414800) (-21600), .once (-273686400) (-18000),
     .once (-260989200) (-21600),
     .yearly 1962 1963 [⟨4, .last 0, 28800, -18000⟩, ⟨10, .last 0, 25200, -21600⟩],
     .once (-179337600) (-18000),
     .yearly 1969 1970 [⟨4, .last 0, 25200, -14400⟩, ⟨10, .last 0, 21600, -18000⟩],
     .once 1162105200 (-21600), .once 1173600000 (-18000),
     .yearly 2008 2099 [⟨3, .onOrAfter 0 8, 25200, -14400⟩, ⟨11, .onOrAfter 0 1, 21600, -18000⟩]]⟩),
   ("America/Indiana/Winamac", ⟨-20785, [.once (-2717647200) (-21600),
     .yearly 1918 1919 [⟨3, .last 0, 28800, -18000⟩, ⟨10, .last 0, 25200, -21600⟩],
     .once (-880214400) (-18000), .once (-765392400) (-21600),
     .yearly 1946 1954 [⟨4, .last 0, 28800, -18000⟩, ⟨9, .last 0, 25200, -21600⟩],
     .yearly 1955 1956 [⟨4, .last 0, 28800, -18000⟩, ⟨10, .last 0, 25200, -21600⟩],
     .yearly 1957 1960 [⟨4, .last 0, 28800, -18000⟩, ⟨9, .last 0, 25200, -21600⟩],
     .once (-273686400) (-18000),
     .yearly 1969 1970 [⟨4, .last 0, 25200, -14400⟩, ⟨10, .last 0, 21600, -18000⟩],
     .once 1162105200 (-21600), .once 1173600000 (-14400), .once 1194156000 (-18000),
     .yearly 2008 2099 [⟨3, .onOrAfter 0 8, 25200, -14400⟩, ⟨11, .onOrAfter 0 1, 21600, -18000⟩]]⟩),
   ("America/Inuvik", ⟨0, [.once (-536457600) (-28800),
     .yearly 1972 1978 [⟨4, .last 0, 36000, -25200⟩, ⟨10, .last 0, 32400, -28800⟩],
     .once 294228000 (-21600), .once 309945600 (-25200),
     .yearly 1980 1986 [⟨4, .last 0, 32400, -21600⟩, ⟨10, .last 0, 28800, -25200⟩],
     .yearly 1987 2006 [⟨4, .onOrAfter 0 1, 32400, -21600⟩, ⟨10, .last 0, 28800, -25200⟩],
     .yearly 2007 2099 [⟨3, .onOrAfter 0 8, 32400, -21600⟩, ⟨11, .onOrAfter 0 1, 28800, -25200⟩]]⟩),
   ("America/Iqaluit", ⟨0, [.once (-865296000) (-14400), .once (-765396000) (-18000),
     .yearly 1972 1986 [⟨4, .last 0, 25200, -14400⟩, ⟨10, .last 0, 21600, -18000⟩],
     .yearly 1987 1998 [⟨4, .onOrAfter 0 1, 25200, -14400⟩, ⟨10, .last 0, 21600, -18000⟩],
     .once 923209200 (-14400), .once 941349600 (-21600), .once 954662400 (-18000),
     .yearly 2001 2006 [⟨4, .onOrAfter 0 1, 25200, -14400⟩, ⟨10, .last 0, 21600, -18000⟩],
     .yearly 2007 2099 [⟨3, .onOrAfter 0 8, 25200, -14400⟩, ⟨11, .onOrAfter 0 1, 21600, -18000⟩]]⟩),
   ("America/Jamaica", ⟨-18430, [.once (-1827687170) (-18000), .once 126687600 (-14400),
     .once 152085600 (-18000), .once 162370800 (-14400), .once 183535200 (-18000),
     .yearly 1976 1983 [⟨4, .last 0, 25200, -14400⟩, ⟨10, .last 0, 21600, -18000⟩]]⟩),
   ("America/Juneau", ⟨54139, [.once (-3225223727) (-32261), .once (-2188954939) (-28800),
     .once (-880207200) (-25200), .once (-765385200) (-28800),
     .yearly 1969 1973 [⟨4, .last 0, 36000, -25200⟩, ⟨10, .last 0, 32400, -28800⟩],
     .once 126698400 (-25200), .once 152096400 (-28800), .once 162381600 (-25200),
     .once 183546000 (-28800),
     .yearly 1976 1979 [⟨4, .last 0, 36000, -25200⟩, ⟨10, .last 0, 32400, -28800⟩],
     .yearly 1981 1982 [⟨4, .last 0, 36000, -25200⟩, ⟨10, .last 0, 32400, -28800⟩],
     .once 420026400 (-25200), .once 436352400 (-32400),
     .yearly 1984 1986 [⟨4, .last 0, 39600, -28800⟩, ⟨10, .last 0, 36000, -32400⟩],
     .yearly 1987 2006 [⟨4, .onOrAfter 0 1, 39600, -28800⟩, ⟨10, .last 0, 36000, -32400⟩],
     .yearly 2007 2099 [⟨3, .onOrAfter 0 8, 39600, -28800⟩, ⟨11, .onOrAfter 0 1, 36000, -32400⟩]]⟩),
   ("America/Kentucky/Louisville", ⟨-20582, [.once (-2717647200) (-21600),
     .yearly 1918 1919 [⟨3, .last 0, 28800, -18000⟩, ⟨10, .last 0, 25200, -21600⟩],
     .once (-1535904000) (-18000), .once (-1525280400) (-21600), .once (-905097600) (-18000),
     .once (-891795600) (-21600), .once (-880214400) (-18000), .once (-765392400) (-21600),
     .once (-747251940) (-18000), .once (-744224400) (-21600),
     .yearly 1950 1955 [⟨4, .last 0, 28800, -18000⟩, ⟨9, .last 0, 25200, -21600⟩],
     .yearly 1956 1960 [⟨4, .last 0, 28800, -18000⟩, ⟨10, .last 0, 25200, -21600⟩],
     .once (-273686400) (-18000),
     .yearly 1968 1973 [⟨4, .last 0, 25200, -14400⟩, ⟨10, .last 0, 21600, -18000⟩],
     .once 162370800 (-14400), .once 183535200 (-18000),
     .yearly 1976 1986 [⟨4, .last 0, 25200, -14400⟩, ⟨10, .last 0, 21600, -18000⟩],
     .yearly 1987 2006 [⟨4, .onOrAfter 0 1, 25200, -14400⟩, ⟨10, .last 0, 21600, -18000⟩],
     .yearly 2007 2099 [⟨3, .onOrAfter 0 8, 25200, -14400⟩, ⟨11, .onOrAfter 0 1, 21600, -18000⟩]]⟩),
   ("America/Kentucky/Monticello", ⟨-20364, [.once (-2717647200) (-21600),
     .yearly 1918 1919 [⟨3, .last 0, 28800, -18000⟩, ⟨10, .last 0, 25200, -21600⟩],
     .once (-880214400) (-18000), .once (-765392400) (-21600),
     .yearly 1968 1973 [⟨4, .last 0, 28800, -18000⟩, ⟨10, .last 0, 25200, -21600⟩],
     .once 126691200 (-18000), .once 152089200 (-21600), .once 162374400 (-18000),
     .once 183538800 (-21600),
     .yearly 1976 1986 [⟨4, .last 0, 28800, -18000⟩, ⟨10, .last 0, 25200, -21600⟩],
     .yearly 1987 1999 [⟨4, .onOrAfter 0 1, 28800, -18000⟩, ⟨10, .last 0, 25200, -21600⟩],
     .once 954662400 (-18000),
     .yearly 2001 2006 [⟨4, .onOrAfter 0 1, 25200, -14400⟩, ⟨10, .last 0, 21600, -18000⟩],
     .yearly 2007 2099 [⟨3, .onOrAfter 0 8, 25200, -14400⟩, ⟨11, .onOrAfter 0 1, 21600, -18000⟩]]⟩)]

end HydroArchive.ZoneTable
