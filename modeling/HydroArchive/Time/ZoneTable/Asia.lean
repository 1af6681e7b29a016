import HydroArchive.Time.ZoneHistory

/-!
# Zone table: the zones of Asia

Each zone with the offset of its first clock and all changes of its clock up to the year 2099.
-/

namespace HydroArchive.ZoneTable

/-- The clocks of Gaza and Hebron from 2026 on.  In the years that the yearly pattern leaves out,
summer time is interrupted for a month that wanders through the year. -/
def gazaAndHebron : List ZoneChange :=
  [.yearly 2026 2035 [⟨3, .onOrAfter 6 24, 0, 10800⟩, ⟨10, .onOrAfter 5 23, 82800, 7200⟩],
   .once 2090361600 10800, .once 2107897200 7200, .once 2121811200 10800, .once 2138742000 7200,
   .once 2153260800 10800, .once 2168982000 7200, .once 2184710400 10800, .once 2199826800 7200,
   .once 2216160000 10800, .once 2230066800 7200, .once 2234304000 10800, .once 2234905200 7200,
   .once 2248214400 10800, .once 2260911600 7200, .once 2264544000 10800, .once 2266354800 7200,
   .once 2279664000 10800, .once 2291756400 7200, .once 2295388800 10800, .once 2297804400 7200,
   .once 2311113600 10800, .once 2321996400 7200, .once 2326233600 10800, .once 2329254000 7200,
   .once 2342563200 10800, .once 2352841200 7200, .once 2356473600 10800, .once 2361308400 7200,
   .once 2374012800 10800, .once 2383686000 7200, .once 2387318400 10800, .once 2392758000 7200,
   .once 2405462400 10800, .once 2413926000 7200, .once 2418163200 10800, .once 2424207600 7200,
   .once 2437516800 10800, .once 2444770800 7200, .once 2448403200 10800, .once 2455657200 7200,
   .once 2468966400 10800, .once 2475010800 7200, .once 2479248000 10800, .once 2487106800 7200,
   .once 2500416000 10800, .once 2505855600 7200, .once 2509488000 10800, .once 2519161200 7200,
   .once 2531865600 10800, .once 2536700400 7200, .once 2540332800 10800, .once 2550610800 7200,
   .once 2563315200 10800, .once 2566940400 7200, .once 2571177600 10800, .once 2582060400 7200,
   .once 2595369600 10800, .once 2597785200 7200, .once 2601417600 10800, .once 2613510000 7200,
   .once 2626819200 10800, .once 2628025200 7200, .once 2632262400 10800, .once 2644959600 7200,
   .once 2658268800 10800, .once 2658870000 7200, .once 2663107200 10800, .once 2676409200 7200,
   .once 2693347200 10800, .once 2708463600 7200, .once 2724192000 10800, .once 2739913200 7200,
   .once 2754432000 10800, .once 2771362800 7200, .once 2785276800 10800, .once 2802812400 7200,
   .yearly 2059 2067 [⟨3, .onOrAfter 6 24, 0, 10800⟩, ⟨10, .onOrAfter 5 23, 82800, 7200⟩],
   .once 3099772800 10800, .once 3117913200 7200, .once 3131827200 10800, .once 3148758000 7200,
   .once 3163276800 10800, .once 3179602800 7200, .once 3194726400 10800, .once 3209842800 7200,
   .once 3226176000 10800, .once 3240687600 7200, .once 3244320000 10800, .once 3244921200 7200,
   .once 3257625600 10800, .once 3271532400 7200, .once 3275164800 10800, .once 3276370800 7200,
   .once 3289075200 10800, .once 3301772400 7200, .once 3306009600 10800, .once 3307820400 7200,
   .once 3321129600 10800, .once 3332617200 7200, .once 3336249600 10800, .once 3339270000 7200,
   .once 3352579200 10800, .once 3362857200 7200, .once 3367094400 10800, .once 3370719600 7200,
   .once 3384028800 10800, .once 3393702000 7200, .once 3397939200 10800, .once 3402774000 7200,
   .once 3415478400 10800, .once 3424546800 7200, .once 3428179200 10800, .once 3434223600 7200,
   .once 3446928000 10800, .once 3454786800 7200, .once 3459024000 10800, .once 3465673200 7200,
   .once 3478982400 10800, .once 3485631600 7200, .once 3489264000 10800, .once 3497122800 7200,
   .once 3510432000 10800, .once 3516476400 7200, .once 3520108800 10800, .once 3528572400 7200,
   .once 3541881600 10800, .once 3546716400 7200, .once 3550953600 10800, .once 3560022000 7200,
   .once 3573331200 10800, .once 3577561200 7200, .once 3581193600 10800, .once 3592076400 7200,
   .once 3604780800 10800, .once 3607801200 7200, .once 3612038400 10800, .once 3623526000 7200,
   .once 3636230400 10800, .once 3638646000 7200, .once 3642883200 10800, .once 3654975600 7200,
   .once 3668284800 10800, .once 3669490800 7200, .once 3673123200 10800, .once 3686425200 7200,
   .yearly 2087 2099 [⟨3, .onOrAfter 6 24, 0, 10800⟩, ⟨10, .onOrAfter 5 23, 82800, 7200⟩]]

/-- The clocks of the zones of Asia. -/
def asia : List (String × ZoneHistory) :=
  [("Asia/Almaty", ⟨18468, [.once (-1441170468) 18000, .once (-1247547600) 21600,
     .yearly 1981 1983 [⟨3, .on 31, 64800, 25200⟩, ⟨9, .on 30, 61200, 21600⟩],
     .once 449604000 25200, .once 465336000 21600,
     .yearly 1985 1990 [⟨3, .onOrAfter 6 24, 72000, 25200⟩, ⟨9, .onOrAfter 6 23, 72000, 21600⟩],
     .once 686091600 18000, .once 695768400 21600,
     .yearly 1992 1995 [⟨3, .last 6, 72000, 25200⟩, ⟨9, .onOrAfter 6 22, 72000, 21600⟩],
     .yearly 1996 2004 [⟨3, .onOrAfter 6 24, 72000, 25200⟩, ⟨10, .onOrAfter 6 24, 72000, 21600⟩],
     .once 1709229600 18000]⟩),
   ("Asia/Amman", ⟨8624, [.once (-1230776624) 7200, .once 108165600 10800, .once 118270800 7200,
     .yearly 1974 1975 [⟨4, .on 30, 79200, 10800⟩, ⟨9, .on 30, 75600, 7200⟩],
     .once 199749600 10800, .once 215643600 7200,
     .yearly 1977 1978 [⟨4, .last 6, 79200, 10800⟩, ⟨9, .last 5, 75600, 7200⟩],
     .once 481154400 10800, .once 496962000 7200,
     .yearly 1986 1988 [⟨4, .onOrAfter 5 1, -7200, 10800⟩, ⟨10, .onOrAfter 4 1, 75600, 7200⟩],
     .once 610581600 10800, .once 623624400 7200, .once 641167200 10800, .once 655074000 7200,
     .once 671839200 10800, .once 685918800 7200, .once 702856800 10800, .once 717973200 7200,
     .once 733701600 10800, .once 749422800 7200, .once 765151200 10800, .once 779662800 7200,
     .yearly 1995 1998 [⟨4, .onOrAfter 4 1, 79200, 10800⟩, ⟨9, .onOrAfter 4 13, 79200, 7200⟩],
     .once 930780000 10800, .once 938124000 7200,
     .yearly 2000 2001 [⟨3, .last 3, 79200, 10800⟩, ⟨9, .last 4, 79200, 7200⟩],
     .once 1017352800 10800, .once 1033077600 7200, .once 1048802400 10800,
     .once 1066946400 7200, .once 1080252000 10800, .once 1097791200 7200,
     .once 1112306400 10800, .once 1128031200 7200,
     .yearly 2006 2011 [⟨3, .last 4, 79200, 10800⟩, ⟨10, .last 4, 79200, 7200⟩],
     .once 1333058400 10800, .once 1387486800 7200,
     .yearly 2014 2021 [⟨3, .last 4, 79200, 10800⟩, ⟨10, .onOrAfter 4 24, 79200, 7200⟩],
     .once 1645740000 10800]⟩),
   ("Asia/Anadyr", ⟨42596, [.once (-1441194596) 43200, .once (-1247572800) 46800,
     .once 354884400 50400, .once 370692000 46800, .once 402231600 43200, .once 417960000 46800,
     .once 433767600 43200, .once 449582400 46800, .once 465314400 43200,
     .yearly 1985 1990 [⟨3, .onOrAfter 6 24, 50400, 46800⟩, ⟨9, .onOrAfter 6 23, 50400, 43200⟩],
     .once 686070000 39600, .once 695746800 43200,
     .yearly 1992 1995 [⟨3, .last 6, 50400, 46800⟩, ⟨9, .onOrAfter 6 22, 50400, 43200⟩],
     .yearly 1996 2009 [⟨3, .onOrAfter 6 24, 50400, 46800⟩, ⟨10, .onOrAfter 6 24, 50400, 43200⟩],
     .once 1288450800 39600, .once 1301151600 43200]⟩),
   ("Asia/Aqtau", ⟨12064, [.once (-1441164064) 14400, .once (-1247544000) 18000,
     .once 370724400 21600, .once 402256800 18000, .once 417985200 21600, .once 433792800 18000,
     .once 449607600 21600, .once 465339600 18000,
     .yearly 1985 1990 [⟨3, .onOrAfter 6 24, 75600, 21600⟩, ⟨9, .onOrAfter 6 23, 75600, 18000⟩],
     .once 686095200 14400, .once 695772000 18000,
     .yearly 1992 1993 [⟨3, .last 6, 75600, 21600⟩, ⟨9, .last 6, 75600, 18000⟩],
     .once 764715600 21600, .once 780440400 14400, .once 796168800 18000, .once 811893600 14400,
     .yearly 1996 2003 [⟨3, .onOrAfter 6 24, 79200, 18000⟩, ⟨10, .onOrAfter 6 24, 79200, 14400⟩],
     .once 1080424800 18000]⟩),
   ("Asia/Aqtobe", ⟨13720, [.once (-1441165720) 14400, .once (-1247544000) 18000,
     .once 354913200 21600, .once 402256800 18000, .once 417985200 21600, .once 433792800 18000,
     .once 449607600 21600, .once 465339600 18000,
     .yearly 1985 1990 [⟨3, .onOrAfter 6 24, 75600, 21600⟩, ⟨9, .onOrAfter 6 23, 75600, 18000⟩],
     .once 686095200 14400, .once 695772000 18000,
     .yearly 1992 1995 [⟨3, .last 6, 75600, 21600⟩, ⟨9, .onOrAfter 6 22, 75600, 18000⟩],
     .yearly 1996 2004 [⟨3, .onOrAfter 6 24, 75600, 21600⟩, ⟨10, .onOrAfter 6 24, 75600, 18000⟩]]⟩),
   ("Asia/Ashgabat", ⟨14012, [.once (-1441166012) 14400, .once (-1247544000) 18000,
     .yearly 1981 1983 [⟨3, .on 31, 68400, 21600⟩, ⟨9, .on 30, 64800, 18000⟩],
     .once 449607600 21600, .once 465339600 18000,
     .yearly 1985 1990 [⟨3, .onOrAfter 6 24, 75600, 21600⟩, ⟨9, .onOrAfter 6 23, 75600, 18000⟩],
     .once 686095200 14400, .once 695772000 18000]⟩),
   ("Asia/Atyrau", ⟨12464, [.once (-1441164464) 10800, .once (-1247540400) 18000,
     .once 370724400 21600, .once 402256800 18000, .once 417985200 21600, .once 433792800 18000,
     .once 449607600 21600, .once 465339600 18000,
     .yearly 1985 1990 [⟨3, .onOrAfter 6 24, 75600, 21600⟩, ⟨9, .onOrAfter 6 23, 75600, 18000⟩],
     .once 686095200 14400, .once 695772000 18000,
     .yearly 1992 1995 [⟨3, .last 6, 75600, 21600⟩, ⟨9, .onOrAfter 6 22, 75600, 18000⟩],
     .yearly 1996 1998 [⟨3, .last 6, 75600, 21600⟩, ⟨10, .onOrAfter 6 22, 75600, 18000⟩],
     .once 941320800 14400,
     .yearly 2000 2003 [⟨3, .onOrAfter 6 24, 79200, 18000⟩, ⟨10, .last 6, 79200, 14400⟩],
     .once 1080424800 18000]⟩),
   ("Asia/Baghdad", ⟨10660, [.once (-2524532260) 10656, .once (-1641005856) 10800,
     .once 389048400 14400, .once 402264000 10800, .once 417906000 14400, .once 433800000 10800,
     .once 449614800 14400, .once 465422400 10800, .once 481150800 14400, .once 496792800 10800,
     .yearly 1986 1990 [⟨3, .onOrAfter 6 23, 79200, 14400⟩, ⟨9, .onOrAfter 6 23, 79200, 10800⟩],
     .yearly 1991 2007 [⟨4, .on 1, 0, 14400⟩, ⟨10, .on 1, 0, 10800⟩]]⟩),
   ("Asia/Baku", ⟨11964, [.once (-1441163964) 10800, .once (-405140400) 14400,
     .yearly 1981 1983 [⟨3, .on 31, 72000, 18000⟩, ⟨9, .on 30, 68400, 14400⟩],
     .once 449611200 18000, .once 465343200 14400,
     .yearly 1985 1990 [⟨3, .onOrAfter 6 24, 79200, 18000⟩, ⟨9, .onOrAfter 6 23, 79200, 14400⟩],
     .once 686098800 10800, .once 701823600 14400, .once 828234000 18000, .once 846378000 14400,
     .yearly 1997 2015 [⟨3, .last 0, 0, 18000⟩, ⟨10, .last 0, 0, 14400⟩]]⟩),
   ("Asia/Bangkok", ⟨24124, [.once (-1570084924) 25200]⟩),
   ("Asia/Barnaul", ⟨20100, [.once (-1579844100) 21600, .once (-1247551200) 25200,
     .yearly 1981 1983 [⟨3, .on 31, 61200, 28800⟩, ⟨9, .on 30, 57600, 25200⟩],
     .once 449600400 28800, .once 465332400 25200,
     .yearly 1985 1990 [⟨3, .onOrAfter 6 24, 68400, 28800⟩, ⟨9, .onOrAfter 6 23, 68400, 25200⟩],
     .once 686088000 21600, .once 695764800 25200,
     .yearly 1992 1994 [⟨3, .last 6, 68400, 28800⟩, ⟨9, .last 6, 68400, 25200⟩],
     .once 796158000 28800, .once 801590400 25200, .once 811886400 21600,
     .yearly 1996 2010 [⟨3, .onOrAfter 6 24, 72000, 25200⟩, ⟨10, .onOrAfter 6 24, 72000, 21600⟩],
     .once 1301169600 25200, .once 1414263600 21600, .once 1459022400 25200]⟩),
   ("Asia/Beirut", ⟨8520, [.once (-2840149320) 7200, .once (-1570413600) 10800,
     .once (-1552186800) 7200, .once (-1538359200) 10800, .once (-1522551600) 7200,
     .once (-1507514400) 10800, .once (-1490583600) 7200, .once (-1473645600) 10800,
     .once (-1460948400) 7200,
     .yearly 1957 1961 [⟨4, .on 30, 79200, 10800⟩, ⟨9, .on 30, 75600, 7200⟩],
     .once 78012000 10800, .once 86734800 7200,
     .yearly 1973 1977 [⟨4, .on 30, 79200, 10800⟩, ⟨9, .on 30, 75600, 7200⟩],
     .once 262735200 10800, .once 275950800 7200,
     .yearly 1984 1987 [⟨4, .on 30, 79200, 10800⟩, ⟨10, .on 15, 75600, 7200⟩],
     .once 581119200 10800, .once 592952400 7200, .once 610754400 10800, .once 624488400 7200,
     .yearly 1990 1991 [⟨4, .on 30, 79200, 10800⟩, ⟨10, .on 15, 75600, 7200⟩],
     .once 704671200 10800, .once 718146000 7200,
     .yearly 1993 1998 [⟨3, .last 6, 79200, 10800⟩, ⟨9, .onOrAfter 6 22, 75600, 7200⟩],
     .yearly 1999 2099 [⟨3, .onOrAfter 6 24, 79200, 10800⟩, ⟨10, .onOrAfter 6 24, 75600, 7200⟩]]⟩),
   ("Asia/Bishkek", ⟨17904, [.once (-1441169904) 18000, .once (-1247547600) 21600,
     .yearly 1981 1983 [⟨3, .on 31, 64800, 25200⟩, ⟨9, .on 30, 61200, 21600⟩],
     .once 449604000 25200, .once 465336000 21600,
     .yearly 1985 1990 [⟨3, .onOrAfter 6 24, 72000, 25200⟩, ⟨9, .onOrAfter 6 23, 72000, 21600⟩],
     .once 683582400 18000,
     .yearly 1992 1996 [⟨4, .onOrAfter 6 5, 68400, 21600⟩, ⟨9, .onOrAfter 6 22, 64800, 18000⟩],
     .yearly 1997 2004 [⟨3, .onOrAfter 6 24, 77400, 21600⟩, ⟨10, .onOrAfter 6 24, 73800, 18000⟩],
     .once 1111872600 21600]⟩),
   ("Asia/Chita", ⟨27232, [.once (-1579419232) 28800, .once (-1247558400) 32400,
     .yearly 1981 1983 [⟨3, .on 31, 54000, 36000⟩, ⟨9, .on 30, 50400, 32400⟩],
     .once 449593200 36000, .once 465325200 32400,
     .yearly 1985 1990 [⟨3, .onOrAfter 6 24, 61200, 36000⟩, ⟨9, .onOrAfter 6 23, 61200, 32400⟩],
     .once 686080800 28800, .once 695757600 32400,
     .yearly 1992 1995 [⟨3, .last 6, 61200, 36000⟩, ⟨9, .onOrAfter 6 22, 61200, 32400⟩],
     .yearly 1996 2010 [⟨3, .onOrAfter 6 24, 61200, 36000⟩, ⟨10, .onOrAfter 6 24, 61200, 32400⟩],
     .once 1301158800 36000, .once 1414252800 28800, .once 1459015200 32400]⟩),
   ("Asia/Colombo", ⟨19164, [.once (-2840159964) 19172, .once (-2019705572) 19800,
     .once (-883287000) 21600, .once (-862639200) 23400, .once (-764051400) 19800,
     .once 832962600 23400, .once 846266400 21600, .once 1145039400 19800]⟩),
   ("Asia/Damascus", ⟨8712, [.once (-1577931912) 7200,
     .yearly 1920 1923 [⟨4, .onOrAfter 0 15, 0, 10800⟩, ⟨10, .onOrAfter 0 1, -3600, 7200⟩],
     .once (-242265600) 10800, .once (-228877200) 7200, .once (-210556800) 10800,
     .once (-197427600) 7200,
     .yearly 1964 1965 [⟨5, .on 1, 0, 10800⟩, ⟨9, .last 3, 82800, 7200⟩],
     .once (-116467200) 10800, .once (-102646800) 7200,
     .yearly 1967 1976 [⟨5, .on 1, 0, 10800⟩, ⟨9, .on 30, 82800, 7200⟩],
     .yearly 1977 1978 [⟨5, .on 1, 0, 10800⟩, ⟨8, .on 31, 82800, 7200⟩],
     .yearly 1983 1984 [⟨4, .on 9, 0, 10800⟩, ⟨9, .on 30, 82800, 7200⟩], .once 508896000 10800,
     .once 529196400 7200, .once 541555200 10800, .once 562633200 7200, .once 574387200 10800,
     .once 594255600 7200, .once 607305600 10800, .once 623199600 7200, .once 638928000 10800,
     .once 654649200 7200, .once 670456800 10800, .once 686264400 7200, .once 702684000 10800,
     .once 717886800 7200,
     .yearly 1993 1994 [⟨3, .last 4, 79200, 10800⟩, ⟨9, .last 5, 75600, 7200⟩],
     .yearly 1995 1996 [⟨3, .on 31, 79200, 10800⟩, ⟨9, .on 30, 75600, 7200⟩],
     .yearly 1997 1998 [⟨3, .last 0, 79200, 10800⟩, ⟨9, .on 30, 75600, 7200⟩],
     .yearly 1999 2005 [⟨3, .on 31, 79200, 10800⟩, ⟨9, .on 30, 75600, 7200⟩],
     .once 1143842400 10800, .once 1158872400 7200, .once 1175205600 10800,
     .once 1193950800 7200, .once 1207260000 10800, .once 1225486800 7200,
     .yearly 2009 2015 [⟨3, .last 3, 165600, 10800⟩, ⟨10, .onOrAfter 4 24, 75600, 7200⟩],
     .yearly 2016 2021 [⟨3, .onOrAfter 4 24, 79200, 10800⟩, ⟨10, .onOrAfter 4 23, 75600, 7200⟩],
     .once 1648159200 10800]⟩),
   ("Asia/Dhaka", ⟨21700, [.once (-2524543300) 21200, .once (-891582800) 23400,
     .once (-872058600) 19800, .once (-862637400) 23400, .once (-576138600) 21600,
     .once 1245430800 25200, .once 1262278800 21600]⟩),
   ("Asia/Dili", ⟨30140, [.once (-1830412800) 28800, .once (-879152400) 32400,
     .once 199897200 28800, .once 969120000 32400]⟩),
   ("Asia/Dubai", ⟨13272, [.once (-1577936472) 14400]⟩),
   ("Asia/Dushanbe", ⟨16512, [.once (-1441168512) 18000, .once (-1247547600) 21600,
     .yearly 1981 1983 [⟨3, .on 31, 64800, 25200⟩, ⟨9, .on 30, 61200, 21600⟩],
     .once 449604000 25200, .once 465336000 21600,
     .yearly 1985 1990 [⟨3, .onOrAfter 6 24, 72000, 25200⟩, ⟨9, .onOrAfter 6 23, 72000, 21600⟩],
     .once 684363600 18000]⟩),
   ("Asia/Famagusta", ⟨8148, [.once (-1518920148) 7200, .once 166572000 10800,
     .once 182293200 7200, .once 200959200 10800, .once 213829200 7200, .once 228866400 10800,
     .once 243982800 7200, .once 260316000 10800, .once 276123600 7200,
     .yearly 1979 1980 [⟨4, .onOrAfter 0 1, -7200, 10800⟩, ⟨9, .last 6, 75600, 7200⟩],
     .yearly 1981 1997 [⟨3, .onOrAfter 6 24, 79200, 10800⟩, ⟨9, .onOrAfter 6 23, 75600, 7200⟩],
     .once 891122400 10800, .once 909277200 7200,
     .yearly 1999 2015 [⟨3, .last 0, 3600, 10800⟩, ⟨10, .last 0, 3600, 7200⟩],
     .once 1459040400 10800, .once 1509238800 7200,
     .yearly 2018 2099 [⟨3, .last 0, 3600, 10800⟩, ⟨10, .last 0, 3600, 7200⟩]]⟩),
   ("Asia/Gaza", ⟨8272, [.once (-2185409872) 7200, .once (-933638400) 10800,
     .once (-923097600) 7200, .once (-919036800) 10800, .once (-857347200) 7200,
     .yearly 1943 1944 [⟨4, .on 1, 0, 10800⟩, ⟨11, .on 1, 0, 7200⟩],
     .yearly 1945 1946 [⟨4, .on 16, 0, 10800⟩, ⟨11, .on 1, 0, 7200⟩], .once (-399088800) 10800,
     .once (-386650800) 7200, .once (-368330400) 10800, .once (-355114800) 7200,
     .yearly 1959 1965 [⟨4, .on 30, 82800, 10800⟩, ⟨9, .on 30, 0, 7200⟩],
     .once (-115866000) 10800, .once (-102643200) 7200, .once (-84330000) 10800,
     .once (-81313200) 7200, .once 142380000 10800, .once 150843600 7200, .once 167176800 10800,
     .once 178664400 7200, .once 334101600 10800, .once 337730400 7200, .once 452642400 10800,
     .once 462319200 7200, .once 482277600 10800, .once 494370000 7200, .once 516751200 10800,
     .once 526424400 7200, .once 545436000 10800, .once 558478800 7200, .once 576626400 10800,
     .once 589323600 7200, .once 609890400 10800, .once 620773200 7200,
     .yearly 1990 1991 [⟨3, .onOrAfter 6 22, 79200, 10800⟩, ⟨8, .last 6, 75600, 7200⟩],
     .once 701820000 10800, .once 715726800 7200, .once 733701600 10800, .once 747176400 7200,
     .once 765151200 10800, .once 778021200 7200, .once 796600800 10800, .once 810075600 7200,
     .yearly 1996 1998 [⟨4, .onOrAfter 4 1, 79200, 10800⟩, ⟨9, .onOrAfter 4 15, 79200, 7200⟩],
     .yearly 1999 2003 [⟨4, .onOrAfter 4 15, 79200, 10800⟩, ⟨10, .onOrAfter 4 13, 75600, 7200⟩],
     .once 1082066400 10800, .once 1096581600 7200, .once 1113516000 10800,
     .once 1128380400 7200, .once 1143842400 10800, .once 1158872400 7200,
     .once 1175378400 10800, .once 1189638000 7200, .once 1206655200 10800,
     .once 1219957200 7200, .once 1238104800 10800, .once 1252015200 7200,
     .once 1269640860 10800, .once 1281474000 7200, .once 1301608860 10800,
     .once 1312146000 7200, .once 1333058400 10800, .once 1348178400 7200,
     .once 1364508000 10800, .once 1380229200 7200, .once 1395957600 10800,
     .once 1414098000 7200, .once 1427493600 10800, .once 1445551200 7200,
     .yearly 2016 2018 [⟨3, .onOrAfter 5 22, 82800, 10800⟩, ⟨10, .last 5, 79200, 7200⟩],
     .once 1553810400 10800, .once 1572037200 7200, .once 1585346400 10800,
     .once 1603490400 7200, .once 1616796000 10800, .once 1635458400 7200,
     .once 1648332000 10800, .once 1666998000 7200, .once 1682726400 10800,
     .once 1698447600 7200, .once 1713571200 10800, .once 1729897200 7200,
     .once 1744416000 10800, .once 1761346800 7200] ++ gazaAndHebron⟩),
   ("Asia/Hebron", ⟨8423, [.once (-2185410023) 7200, .once (-933638400) 10800,
     .once (-923097600) 7200, .once (-919036800) 10800, .once (-857347200) 7200,
     .yearly 1943 1944 [⟨4, .on 1, 0, 10800⟩, ⟨11, .on 1, 0, 7200⟩],
     .yearly 1945 1946 [⟨4, .on 16, 0, 10800⟩, ⟨11, .on 1, 0, 7200⟩], .once (-399088800) 10800,
     .once (-386650800) 7200, .once (-368330400) 10800, .once (-355114800) 7200,
     .yearly 1959 1965 [⟨4, .on 30, 82800, 10800⟩, ⟨9, .on 30, 0, 7200⟩],
     .once (-115866000) 10800, .once (-102643200) 7200, .once (-84330000) 10800,
     .once (-81313200) 7200, .once 142380000 10800, .once 150843600 7200, .once 167176800 10800,
     .once 178664400 7200, .once 334101600 10800, .once 337730400 7200, .once 452642400 10800,
     .once 462319200 7200, .once 482277600 10800, .once 494370000 7200, .once 516751200 10800,
     .once 526424400 7200, .once 545436000 10800, .once 558478800 7200, .once 576626400 10800,
     .once 589323600 7200, .once 609890400 10800, .once 620773200 7200,
     .yearly 1990 1991 [⟨3, .onOrAfter 6 22, 79200, 10800⟩, ⟨8, .last 6, 75600, 7200⟩],
     .once 701820000 10800, .once 715726800 7200, .once 733701600 10800, .once 747176400 7200,
     .once 765151200 10800, .once 778021200 7200, .once 796600800 10800, .once 810075600 7200,
     .yearly 1996 1998 [⟨4, .onOrAfter 4 1, 79200, 10800⟩, ⟨9, .onOrAfter 4 15, 79200, 7200⟩],
     .yearly 1999 2003 [⟨4, .onOrAfter 4 15, 79200, 10800⟩, ⟨10, .onOrAfter 4 13, 75600, 7200⟩],
     .once 1082066400 10800, .once 1096581600 7200, .once 1113516000 10800,
     .once 1128380400 7200, .once 1143842400 10800, .once 1158872400 7200,
     .once 1175378400 10800, .once 1189638000 7200, .once 1206655200 10800,
     .once 1220216400 7200, .once 1238104800 10800, .once 1252015200 7200,
     .once 1269554400 10800, .once 1281474000 7200, .once 1301608860 10800,
     .once 1312146000 7200, .once 1314655200 10800, .once 1317330000 7200,
     .once 1333058400 10800, .once 1348178400 7200, .once 1364508000 10800,
     .once 1380229200 7200, .once 1395957600 10800, .once 1414098000 7200,
     .once 1427493600 10800, .once 1445551200 7200,
     .yearly 2016 2018 [⟨3, .onOrAfter 5 22, 82800, 10800⟩, ⟨10, .last 5, 79200, 7200⟩],
     .once 1553810400 10800, .once 1572037200 7200, .once 1585346400 10800,
     .once 1603490400 7200, .once 1616796000 10800, .once 1635458400 7200,
     .once 1648332000 10800, .once 1666998000 7200, .once 1682726400 10800,
     .once 1698447600 7200, .once 1713571200 10800, .once 1729897200 7200,
     .once 1744416000 10800, .once 1761346800 7200] ++ gazaAndHebron⟩),
   ("Asia/Ho_Chi_Minh", ⟨25590, [.once (-1851577590) 25200, .once (-852105600) 28800,
     .once (-782643600) 32400, .once (-767869200) 25200, .once (-718095600) 28800,
     .once (-457772400) 25200, .once (-315648000) 28800, .once 171820800 25200]⟩),
   ("Asia/Hong_Kong", ⟨27402, [.once (-2056690800) 28800, .once (-900910800) 32400,
     .once (-891579600) 30600, .once (-884248200) 32400, .once (-761209200) 28800,
     .once (-747907200) 32400, .once (-728541000) 28800, .once (-717049800) 32400,
     .once (-697091400) 28800, .once (-683785800) 32400, .once (-668061000) 28800,
     .yearly 1949 1952 [⟨4, .onOrAfter 0 1, -16200, 32400⟩, ⟨10, .last 5, 156600, 28800⟩],
     .once (-528352200) 32400, .once (-510211800) 28800, .once (-498112200) 32400,
     .once (-478762200) 28800,
     .yearly 1955 1964 [⟨3, .onOrAfter 6 17, 70200, 32400⟩, ⟨11, .onOrAfter 0 1, -19800, 28800⟩],
     .yearly 1965 1973 [⟨4, .onOrAfter 6 15, 70200, 32400⟩, ⟨10, .onOrAfter 6 15, 66600, 28800⟩],
     .once 126041400 32400, .once 151439400 28800,
     .yearly 1975 1976 [⟨4, .onOrAfter 6 15, 70200, 32400⟩, ⟨10, .onOrAfter 6 15, 66600, 28800⟩],
     .once 295385400 32400, .once 309292200 28800]⟩),
   ("Asia/Hovd", ⟨21996, [.once (-2032927596) 21600, .once 252439200 25200,
     .once 417978000 28800, .once 433785600 25200,
     .yearly 1984 1989 [⟨3, .last 6, 61200, 28800⟩, ⟨9, .onOrAfter 6 23, 57600, 25200⟩],
     .yearly 1990 1998 [⟨3, .onOrAfter 6 24, 61200, 28800⟩, ⟨9, .onOrAfter 6 23, 57600, 25200⟩],
     .once 988398000 28800, .once 1001700000 25200,
     .yearly 2002 2006 [⟨3, .onOrAfter 5 23, 68400, 28800⟩, ⟨9, .onOrAfter 5 23, 64800, 25200⟩],
     .yearly 2015 2016 [⟨3, .last 5, 68400, 28800⟩, ⟨9, .onOrAfter 5 22, 57600, 25200⟩]]⟩),
   ("Asia/Irkutsk", ⟨25025, [.once (-1575874625) 25200, .once (-1247554800) 28800,
     .yearly 1981 1983 [⟨3, .on 31, 57600, 32400⟩, ⟨9, .on 30, 54000, 28800⟩],
     .once 449596800 32400, .once 465328800 28800,
     .yearly 1985 1990 [⟨3, .onOrAfter 6 24, 64800, 32400⟩, ⟨9, .onOrAfter 6 23, 64800, 28800⟩],
     .once 686084400 25200, .once 695761200 28800,
     .yearly 1992 1995 [⟨3, .last 6, 64800, 32400⟩, ⟨9, .onOrAfter 6 22, 64800, 28800⟩],
     .yearly 1996 2010 [⟨3, .onOrAfter 6 24, 64800, 32400⟩, ⟨10, .onOrAfter 6 24, 64800, 28800⟩],
     .once 1301162400 32400, .once 1414256400 28800]⟩),
   ("Asia/Jakarta", ⟨25632, [.once (-1451719200) 26400, .once (-1172906400) 27000,
     .once (-876641400) 32400, .once (-766054800) 27000, .once (-683883000) 28800,
     .once (-620812800) 27000, .once (-189415800) 25200]⟩),
   ("Asia/Jayapura", ⟨33768, [.once (-1172913768) 32400, .once (-799491600) 34200,
     .once (-189423000) 32400]⟩),
   ("Asia/Jerusalem", ⟨8454, [.once (-2840149254) 8440, .once (-1641003640) 7200,
     .once (-933638400) 10800, .once (-923097600) 7200, .once (-919036800) 10800,
     .once (-857347200) 7200, .yearly 1943 1944 [⟨4, .on 1, 0, 10800⟩, ⟨11, .on 1, 0, 7200⟩],
     .yearly 1945 1946 [⟨4, .on 16, 0, 10800⟩, ⟨11, .on 1, 0, 7200⟩], .once (-681955200) 14400,
     .once (-673228800) 10800, .once (-667958400) 7200, .once (-652320000) 10800,
     .once (-636422400) 7200, .once (-622080000) 10800, .once (-608947200) 7200,
     .once (-591840000) 10800, .once (-572486400) 7200, .once (-558576000) 10800,
     .once (-542851200) 7200, .once (-527731200) 10800, .once (-514425600) 7200,
     .yearly 1954 1955 [⟨6, .onOrAfter 0 8, 0, 10800⟩, ⟨9, .onOrAfter 0 8, 0, 7200⟩],
     .once (-428544000) 10800, .once (-418262400) 7200, .once (-400118400) 10800,
     .once (-387417600) 7200, .once 142380000 10800, .once 150843600 7200,
     .once 167176800 10800, .once 178664400 7200, .once 334101600 10800, .once 337730400 7200,
     .once 452642400 10800, .once 462319200 7200, .once 482277600 10800, .once 494370000 7200,
     .once 516751200 10800, .once 526424400 7200, .once 545436000 10800, .once 558478800 7200,
     .once 576626400 10800, .once 589323600 7200, .once 609890400 10800, .once 620773200 7200,
     .yearly 1990 1991 [⟨3, .onOrAfter 6 22, 79200, 10800⟩, ⟨8, .last 6, 75600, 7200⟩],
     .once 701820000 10800, .once 715726800 7200, .once 733701600 10800, .once 747176400 7200,
     .once 765151200 10800, .once 778021200 7200, .once 796600800 10800, .once 810075600 7200,
     .once 826840800 10800, .once 842821200 7200, .once 858895200 10800, .once 874184400 7200,
     .once 890344800 10800, .once 905029200 7200, .once 923011200 10800, .once 936313200 7200,
     .once 955670400 10800, .once 970783200 7200, .once 986770800 10800, .once 1001282400 7200,
     .once 1017356400 10800, .once 1033941600 7200, .once 1048806000 10800,
     .once 1065132000 7200, .once 1081292400 10800, .once 1095804000 7200,
     .once 1112313600 10800, .once 1128812400 7200, .once 1143763200 10800,
     .once 1159657200 7200, .once 1175212800 10800, .once 1189897200 7200,
     .once 1206662400 10800, .once 1223161200 7200, .once 1238112000 10800,
     .once 1254006000 7200, .once 1269561600 10800, .once 1284246000 7200,
     .once 1301616000 10800, .once 1317510000 7200, .once 1333065600 10800,
     .once 1348354800 7200,
     .yearly 2013 2099 [⟨3, .onOrAfter 5 23, 0, 10800⟩, ⟨10, .onOrAfter 6 24, 82800, 7200⟩]]⟩),
   ("Asia/Kabul", ⟨16608, [.once (-2524538208) 14400, .once (-788932800) 16200]⟩),
   ("Asia/Kamchatka", ⟨38076, [.once (-1487759676) 39600, .once (-1247569200) 43200,
     .yearly 1981 1983 [⟨3, .on 31, 43200, 46800⟩, ⟨9, .on 30, 39600, 43200⟩],
     .once 449582400 46800, .once 465314400 43200,
     .yearly 1985 1990 [⟨3, .onOrAfter 6 24, 50400, 46800⟩, ⟨9, .onOrAfter 6 23, 50400, 43200⟩],
     .once 686070000 39600, .once 695746800 43200,
     .yearly 1992 1995 [⟨3, .last 6, 50400, 46800⟩, ⟨9, .onOrAfter 6 22, 50400, 43200⟩],
     .yearly 1996 2009 [⟨3, .onOrAfter 6 24, 50400, 46800⟩, ⟨10, .onOrAfter 6 24, 50400, 43200⟩],
     .once 1288450800 39600, .once 1301151600 43200]⟩),
   ("Asia/Karachi", ⟨16092, [.once (-1988166492) 19800, .once (-862637400) 23400,
     .once (-764145000) 19800, .once (-576135000) 18000, .once 1018119600 21600,
     .once 1033840800 18000, .once 1212260400 21600, .once 1225476000 18000,
     .once 1239735600 21600, .once 1257012000 18000]⟩),
   ("Asia/Kathmandu", ⟨20476, [.once (-1577943676) 19800, .once 504901800 20700]⟩),
   ("Asia/Khandyga", ⟨32533, [.once (-1579424533) 28800, .once (-1247558400) 32400,
     .yearly 1981 1983 [⟨3, .on 31, 54000, 36000⟩, ⟨9, .on 30, 50400, 32400⟩],
     .once 449593200 36000, .once 465325200 32400,
     .yearly 1985 1990 [⟨3, .onOrAfter 6 24, 61200, 36000⟩, ⟨9, .onOrAfter 6 23, 61200, 32400⟩],
     .once 686080800 28800, .once 695757600 32400,
     .yearly 1992 1995 [⟨3, .last 6, 61200, 36000⟩, ⟨9, .onOrAfter 6 22, 61200, 32400⟩],
     .yearly 1996 2003 [⟨3, .onOrAfter 6 24, 61200, 36000⟩, ⟨10, .onOrAfter 6 24, 61200, 32400⟩],
     .once 1072882800 36000,
     .yearly 2004 2010 [⟨3, .onOrAfter 6 23, 57600, 39600⟩, ⟨10, .onOrAfter 6 24, 57600, 36000⟩],
     .once 1301155200 39600, .once 1315832400 36000, .once 1414252800 32400]⟩),
   ("Asia/Kolkata", ⟨21208, [.once (-3645237208) 21200, .once (-3155694800) 19270,
     .once (-2019705670) 19800, .once (-891581400) 23400, .once (-872058600) 19800,
     .once (-862637400) 23400, .once (-764145000) 19800]⟩),
   ("Asia/Krasnoyarsk", ⟨22286, [.once (-1577513486) 21600, .once (-1247551200) 25200,
     .yearly 1981 1983 [⟨3, .on 31, 61200, 28800⟩, ⟨9, .on 30, 57600, 25200⟩],
     .once 449600400 28800, .once 465332400 25200,
     .yearly 1985 1990 [⟨3, .onOrAfter 6 24, 68400, 28800⟩, ⟨9, .onOrAfter 6 23, 68400, 25200⟩],
     .once 686088000 21600, .once 695764800 25200,
     .yearly 1992 1995 [⟨3, .last 6, 68400, 28800⟩, ⟨9, .onOrAfter 6 22, 68400, 25200⟩],
     .yearly 1996 2010 [⟨3, .onOrAfter 6 24, 68400, 28800⟩, ⟨10, .onOrAfter 6 24, 68400, 25200⟩],
     .once 1301166000 28800, .once 1414260000 25200]⟩),
   ("Asia/Kuching", ⟨26480, [.once (-1383463280) 27000, .once (-1167636600) 28800,
     .yearly 1935 1941 [⟨9, .on 13, 57600, 30000⟩, ⟨12, .on 13, 56400, 28800⟩],
     .once (-879667200) 32400, .once (-767005200) 28800]⟩),
   ("Asia/Macau", ⟨27250, [.once (-2056692850) 28800, .once (-884509200) 32400,
     .once (-873280800) 36000, .once (-855918000) 32400, .once (-841744800) 36000,
     .once (-828529200) 32400, .once (-765363600) 28800, .once (-747046800) 32400,
     .once (-733827600) 28800, .once (-716461200) 32400, .once (-697021200) 28800,
     .once (-683715600) 32400, .once (-667990800) 28800,
     .yearly 1949 1950 [⟨4, .onOrAfter 6 1, 54000, 32400⟩, ⟨10, .last 6, 54000, 28800⟩],
     .once (-591872400) 32400, .once (-573642000) 28800,
     .yearly 1952 1953 [⟨4, .onOrAfter 6 1, 54000, 32400⟩, ⟨10, .last 5, 140400, 28800⟩],
     .once (-498128400) 32400, .once (-478774800) 28800, .once (-466678800) 32400,
     .once (-446720400) 28800, .once (-435229200) 32400, .once (-415258200) 28800,
     .yearly 1957 1964 [⟨3, .onOrAfter 6 17, 70200, 32400⟩, ⟨11, .onOrAfter 0 1, -19800, 28800⟩],
     .yearly 1965 1966 [⟨4, .onOrAfter 6 15, 70200, 32400⟩, ⟨10, .onOrAfter 6 15, 63000, 28800⟩],
     .yearly 1967 1973 [⟨4, .onOrAfter 6 15, 70200, 32400⟩, ⟨10, .onOrAfter 6 15, 66600, 28800⟩],
     .once 126041400 32400, .once 151439400 28800,
     .yearly 1975 1976 [⟨4, .onOrAfter 6 15, 70200, 32400⟩, ⟨10, .onOrAfter 6 15, 66600, 28800⟩],
     .once 295385400 32400, .once 309292200 28800]⟩),
   ("Asia/Magadan", ⟨36192, [.once (-1441188192) 36000, .once (-1247565600) 39600,
     .yearly 1981 1983 [⟨3, .on 31, 46800, 43200⟩, ⟨9, .on 30, 43200, 39600⟩],
     .once 449586000 43200, .once 465318000 39600,
     .yearly 1985 1990 [⟨3, .onOrAfter 6 24, 54000, 43200⟩, ⟨9, .onOrAfter 6 23, 54000, 39600⟩],
     .once 686073600 36000, .once 695750400 39600,
     .yearly 1992 1995 [⟨3, .last 6, 54000, 43200⟩, ⟨9, .onOrAfter 6 22, 54000, 39600⟩],
     .yearly 1996 2010 [⟨3, .onOrAfter 6 24, 54000, 43200⟩, ⟨10, .onOrAfter 6 24, 54000, 39600⟩],
     .once 1301151600 43200, .once 1414245600 36000, .once 1461427200 39600]⟩),
   ("Asia/Makassar", ⟨28656, [.once (-1172908656) 28800, .once (-880272000) 32400,
     .once (-766054800) 28800]⟩),
   ("Asia/Manila", ⟨-57368, [.once (-3944621032) 29032, .once (-2219083200) 28800,
     .once (-1046678400) 32400, .once (-1040115600) 28800, .once (-885024000) 32400,
     .once (-760093200) 28800, .once (-496224000) 32400, .once (-491562000) 28800,
     .once 228326400 32400, .once 243702000 28800, .once 643219200 32400, .once 649177200 28800]⟩),
   ("Asia/Nicosia", ⟨8008, [.once (-1518920008) 7200, .once 166572000 10800,
     .once 182293200 7200, .once 200959200 10800, .once 213829200 7200, .once 228866400 10800,
     .once 243982800 7200, .once 260316000 10800, .once 276123600 7200,
     .yearly 1979 1980 [⟨4, .onOrAfter 0 1, -7200, 10800⟩, ⟨9, .last 6, 75600, 7200⟩],
     .yearly 1981 1997 [⟨3, .onOrAfter 6 24, 79200, 10800⟩, ⟨9, .onOrAfter 6 23, 75600, 7200⟩],
     .once 891122400 10800, .once 909277200 7200,
     .yearly 1999 2099 [⟨3, .last 0, 3600, 10800⟩, ⟨10, .last 0, 3600, 7200⟩]]⟩),
   ("Asia/Novokuznetsk", ⟨20928, [.once (-1441259328) 21600, .once (-1247551200) 25200,
     .yearly 1981 1983 [⟨3, .on 31, 61200, 28800⟩, ⟨9, .on 30, 57600, 25200⟩],
     .once 449600400 28800, .once 465332400 25200,
     .yearly 1985 1990 [⟨3, .onOrAfter 6 24, 68400, 28800⟩, ⟨9, .onOrAfter 6 23, 68400, 25200⟩],
     .once 686088000 21600, .once 695764800 25200,
     .yearly 1992 1995 [⟨3, .last 6, 68400, 28800⟩, ⟨9, .onOrAfter 6 22, 68400, 25200⟩],
     .yearly 1996 2009 [⟨3, .onOrAfter 6 24, 68400, 28800⟩, ⟨10, .onOrAfter 6 24, 68400, 25200⟩],
     .once 1288468800 21600, .once 1301169600 25200]⟩),
   ("Asia/Novosibirsk", ⟨19900, [.once (-1579476700) 21600, .once (-1247551200) 25200,
     .yearly 1981 1983 [⟨3, .on 31, 61200, 28800⟩, ⟨9, .on 30, 57600, 25200⟩],
     .once 449600400 28800, .once 465332400 25200,
     .yearly 1985 1990 [⟨3, .onOrAfter 6 24, 68400, 28800⟩, ⟨9, .onOrAfter 6 23, 68400, 25200⟩],
     .once 686088000 21600, .once 695764800 25200, .once 701809200 28800, .once 717534000 25200,
     .once 733258800 28800, .once 738086400 25200, .once 748987200 21600,
     .yearly 1994 1995 [⟨3, .last 6, 72000, 25200⟩, ⟨9, .onOrAfter 6 22, 72000, 21600⟩],
     .yearly 1996 2010 [⟨3, .onOrAfter 6 24, 72000, 25200⟩, ⟨10, .onOrAfter 6 24, 72000, 21600⟩],
     .once 1301169600 25200, .once 1414263600 21600, .once 1469304000 25200]⟩),
   ("Asia/Omsk", ⟨17610, [.once (-1582088010) 18000, .once (-1247547600) 21600,
     .yearly 1981 1983 [⟨3, .on 31, 64800, 25200⟩, ⟨9, .on 30, 61200, 21600⟩],
     .once 449604000 25200, .once 465336000 21600,
     .yearly 1985 1990 [⟨3, .onOrAfter 6 24, 72000, 25200⟩, ⟨9, .onOrAfter 6 23, 72000, 21600⟩],
     .once 686091600 18000, .once 695768400 21600,
     .yearly 1992 1995 [⟨3, .last 6, 72000, 25200⟩, ⟨9, .onOrAfter 6 22, 72000, 21600⟩],
     .yearly 1996 2010 [⟨3, .onOrAfter 6 24, 72000, 25200⟩, ⟨10, .onOrAfter 6 24, 72000, 21600⟩],
     .once 1301169600 25200, .once 1414263600 21600]⟩),
   ("Asia/Oral", ⟨12324, [.once (-1441164324) 10800, .once (-1247540400) 18000,
     .once 354913200 21600, .once 402256800 18000, .once 417985200 21600, .once 433792800 18000,
     .once 449607600 21600, .once 465339600 18000,
     .yearly 1985 1988 [⟨3, .last 6, 75600, 21600⟩, ⟨9, .last 6, 75600, 18000⟩],
     .once 622591200 14400,
     .yearly 1990 1991 [⟨3, .onOrAfter 6 24, 79200, 18000⟩, ⟨9, .last 6, 79200, 14400⟩],
     .once 695772000 18000, .once 717544800 14400,
     .yearly 1993 1995 [⟨3, .last 6, 79200, 18000⟩, ⟨9, .onOrAfter 6 22, 79200, 14400⟩],
     .yearly 1996 2003 [⟨3, .onOrAfter 6 24, 79200, 18000⟩, ⟨10, .onOrAfter 6 24, 79200, 14400⟩],
     .once 1080424800 18000]⟩),
   ("Asia/Pontianak", ⟨26240, [.once (-1172906240) 27000, .once (-881220600) 32400,
     .once (-766054800) 27000, .once (-683883000) 28800, .once (-620812800) 27000,
     .once (-189415800) 28800, .once 567964800 25200]⟩),
   ("Asia/Pyongyang", ⟨30180, [.once (-1948782180) 30600, .once (-1830414600) 32400,
     .once 1439564400 30600, .once 1525446000 32400]⟩),
   ("Asia/Qatar", ⟨12368, [.once (-1577935568) 14400, .once 76190400 10800]⟩),
   ("Asia/Qostanay", ⟨15268, [.once (-1441167268) 14400, .once (-1247544000) 18000,
     .once 354913200 21600, .once 402256800 18000, .once 417985200 21600, .once 433792800 18000,
     .once 449607600 21600, .once 465339600 18000,
     .yearly 1985 1990 [⟨3, .onOrAfter 6 24, 75600, 21600⟩, ⟨9, .onOrAfter 6 23, 75600, 18000⟩],
     .once 686095200 14400, .once 695772000 18000,
     .yearly 1992 1995 [⟨3, .last 6, 75600, 21600⟩, ⟨9, .onOrAfter 6 22, 75600, 18000⟩],
     .yearly 1996 2003 [⟨3, .onOrAfter 6 24, 75600, 21600⟩, ⟨10, .onOrAfter 6 24, 75600, 18000⟩],
     .once 1080421200 21600, .once 1709229600 18000]⟩),
   ("Asia/Qyzylorda", ⟨15712, [.once (-1441167712) 14400, .once (-1247544000) 18000,
     .once 354913200 21600, .once 402256800 18000, .once 417985200 21600, .once 433792800 18000,
     .once 449607600 21600, .once 465339600 18000,
     .yearly 1985 1990 [⟨3, .onOrAfter 6 24, 75600, 21600⟩, ⟨9, .onOrAfter 6 23, 75600, 18000⟩],
     .once 695768400 21600, .once 717541200 18000,
     .yearly 1993 1995 [⟨3, .last 6, 75600, 21600⟩, ⟨9, .onOrAfter 6 22, 75600, 18000⟩],
     .yearly 1996 2003 [⟨3, .onOrAfter 6 24, 75600, 21600⟩, ⟨10, .onOrAfter 6 24, 75600, 18000⟩],
     .once 1080421200 21600, .once 1545328800 18000]⟩),
   ("Asia/Riyadh", ⟨11212, [.once (-719636812) 10800]⟩),
   ("Asia/Sakhalin", ⟨34248, [.once (-2031039048) 32400, .once (-768560400) 39600,
     .yearly 1981 1983 [⟨3, .on 31, 46800, 43200⟩, ⟨9, .on 30, 43200, 39600⟩],
     .once 449586000 43200, .once 465318000 39600,
     .yearly 1985 1990 [⟨3, .onOrAfter 6 24, 54000, 43200⟩, ⟨9, .onOrAfter 6 23, 54000, 39600⟩],
     .once 686073600 36000, .once 695750400 39600,
     .yearly 1992 1995 [⟨3, .last 6, 54000, 43200⟩, ⟨9, .onOrAfter 6 22, 54000, 39600⟩],
     .once 828198000 43200, .once 846342000 39600, .once 877795200 36000,
     .yearly 1998 2010 [⟨3, .onOrAfter 6 24, 57600, 39600⟩, ⟨10, .onOrAfter 6 24, 57600, 36000⟩],
     .once 1301155200 39600, .once 1414249200 36000, .once 1459008000 39600]⟩),
   ("Asia/Samarkand", ⟨16073, [.once (-1441168073) 14400, .once (-1247544000) 18000,
     .once 354913200 21600, .once 402256800 18000, .once 417985200 21600, .once 433792800 18000,
     .once 449607600 21600, .once 465339600 18000,
     .yearly 1985 1991 [⟨3, .onOrAfter 6 24, 75600, 21600⟩, ⟨9, .onOrAfter 6 23, 75600, 18000⟩]]⟩),
   ("Asia/Seoul", ⟨30472, [.once (-1948782472) 30600, .once (-1830414600) 32400,
     .once (-681210000) 36000, .once (-672228000) 32400, .once (-654771600) 36000,
     .once (-640864800) 32400, .once (-623408400) 36000, .once (-609415200) 32400,
     .once (-588848400) 36000, .once (-577965600) 32400, .once (-498128400) 30600,
     .once (-462702600) 34200, .once (-451733400) 30600, .once (-429784200) 34200,
     .once (-418296600) 30600,
     .yearly 1957 1960 [⟨5, .onOrAfter 0 1, -30600, 34200⟩, ⟨9, .onOrAfter 6 15, 52200, 30600⟩],
     .once (-264933000) 32400,
     .yearly 1987 1988 [⟨5, .onOrAfter 6 3, 61200, 36000⟩, ⟨10, .onOrAfter 6 8, 61200, 32400⟩]]⟩),
   ("Asia/Shanghai", ⟨29143, [.once (-2177481943) 28800, .once (-1600675200) 32400,
     .once (-1585904400) 28800, .once (-933667200) 32400, .once (-922093200) 28800,
     .once (-908870400) 32400, .once (-888829200) 28800, .once (-881049600) 32400,
     .once (-767869200) 28800, .once (-745833600) 32400, .once (-733827600) 28800,
     .once (-716889600) 32400, .once (-699613200) 28800, .once (-683884800) 32400,
     .once (-670669200) 28800, .once (-652348800) 32400, .once (-650019600) 28800,
     .once 515527200 32400, .once 527014800 28800,
     .yearly 1987 1991 [⟨4, .onOrAfter 6 10, 64800, 32400⟩, ⟨9, .onOrAfter 6 10, 61200, 28800⟩]]⟩),
   ("Asia/Singapore", ⟨24925, [.once (-2038200925) 25200, .once (-1167634800) 26400,
     .once (-894180000) 27000, .once (-879665400) 32400, .once (-767005200) 27000,
     .once 378662400 28800]⟩),
   ("Asia/Srednekolymsk", ⟨36892, [.once (-1441188892) 36000, .once (-1247565600) 39600,
     .yearly 1981 1983 [⟨3, .on 31, 46800, 43200⟩, ⟨9, .on 30, 43200, 39600⟩],
     .once 449586000 43200, .once 465318000 39600,
     .yearly 1985 1990 [⟨3, .onOrAfter 6 24, 54000, 43200⟩, ⟨9, .onOrAfter 6 23, 54000, 39600⟩],
     .once 686073600 36000, .once 695750400 39600,
     .yearly 1992 1995 [⟨3, .last 6, 54000, 43200⟩, ⟨9, .onOrAfter 6 22, 54000, 39600⟩],
     .yearly 1996 2010 [⟨3, .onOrAfter 6 24, 54000, 43200⟩, ⟨10, .onOrAfter 6 24, 54000, 39600⟩],
     .once 1301151600 43200, .once 1414245600 39600]⟩),
   ("Asia/Taipei", ⟨29160, [.once (-2335248360) 28800, .once (-1017820800) 32400,
     .once (-766224000) 28800, .once (-745833600) 32400, .once (-733827600) 28800,
     .once (-716889600) 32400, .once (-699613200) 28800,
     .yearly 1948 1951 [⟨4, .on 30, 57600, 32400⟩, ⟨9, .on 30, 54000, 28800⟩],
     .once (-562924800) 32400, .once (-541760400) 28800,
     .yearly 1953 1954 [⟨3, .on 31, 57600, 32400⟩, ⟨10, .on 31, 54000, 28800⟩],
     .yearly 1955 1959 [⟨3, .on 31, 57600, 32400⟩, ⟨9, .on 30, 54000, 28800⟩],
     .yearly 1960 1961 [⟨5, .on 31, 57600, 32400⟩, ⟨9, .on 30, 54000, 28800⟩],
     .yearly 1974 1975 [⟨3, .on 31, 57600, 32400⟩, ⟨9, .on 30, 54000, 28800⟩],
     .once 299606400 32400, .once 307551600 28800]⟩),
   ("Asia/Tashkent", ⟨16631, [.once (-1441168631) 18000, .once (-1247547600) 21600,
     .yearly 1981 1983 [⟨3, .on 31, 64800, 25200⟩, ⟨9, .on 30, 61200, 21600⟩],
     .once 449604000 25200, .once 465336000 21600,
     .yearly 1985 1990 [⟨3, .onOrAfter 6 24, 72000, 25200⟩, ⟨9, .onOrAfter 6 23, 72000, 21600⟩],
     .once 686091600 18000]⟩),
   ("Asia/Tbilisi", ⟨10751, [.once (-1441162751) 10800, .once (-405140400) 14400,
     .yearly 1981 1983 [⟨3, .on 31, 72000, 18000⟩, ⟨9, .on 30, 68400, 14400⟩],
     .once 449611200 18000, .once 465343200 14400,
     .yearly 1985 1990 [⟨3, .onOrAfter 6 24, 79200, 18000⟩, ⟨9, .onOrAfter 6 23, 79200, 14400⟩],
     .once 686098800 10800,
     .yearly 1992 1993 [⟨3, .last 6, 75600, 14400⟩, ⟨9, .last 6, 72000, 10800⟩],
     .once 764715600 14400, .once 796161600 18000, .once 811882800 14400, .once 828216000 18000,
     .once 877806000 14400,
     .yearly 1998 2003 [⟨3, .onOrAfter 6 24, 72000, 18000⟩, ⟨10, .onOrAfter 6 24, 68400, 14400⟩],
     .once 1080417600 18000, .once 1088276400 14400, .once 1099177200 10800,
     .once 1111878000 14400]⟩),
   ("Asia/Tehran", ⟨12344, [.once (-1090466744) 12600, .once 227820600 16200,
     .once 246223800 14400, .once 259617600 18000, .once 271108800 14400, .once 279576000 12600,
     .once 296598600 16200, .once 306531000 12600, .once 322432200 16200, .once 338499000 12600,
     .once 673216200 16200, .once 685481400 12600,
     .yearly 1992 1995 [⟨3, .on 21, 73800, 16200⟩, ⟨9, .on 21, 70200, 12600⟩],
     .once 827353800 16200, .once 843247800 12600,
     .yearly 1997 1999 [⟨3, .on 21, 73800, 16200⟩, ⟨9, .on 21, 70200, 12600⟩],
     .once 953584200 16200, .once 969478200 12600,
     .yearly 2001 2003 [⟨3, .on 21, 73800, 16200⟩, ⟨9, .on 21, 70200, 12600⟩],
     .once 1079814600 16200, .once 1095708600 12600, .once 1111437000 16200,
     .once 1127331000 12600, .once 1206045000 16200, .once 1221939000 12600,
     .yearly 2009 2011 [⟨3, .on 21, 73800, 16200⟩, ⟨9, .on 21, 70200, 12600⟩],
     .once 1332275400 16200, .once 1348169400 12600,
     .yearly 2013 2015 [⟨3, .on 21, 73800, 16200⟩, ⟨9, .on 21, 70200, 12600⟩],
     .once 1458505800 16200, .once 1474399800 12600,
     .yearly 2017 2019 [⟨3, .on 21, 73800, 16200⟩, ⟨9, .on 21, 70200, 12600⟩],
     .once 1584736200 16200, .once 1600630200 12600,
     .yearly 2021 2022 [⟨3, .on 21, 73800, 16200⟩, ⟨9, .on 21, 70200, 12600⟩]]⟩),
   ("Asia/Thimphu", ⟨21516, [.once (-706341516) 19800, .once 560025000 21600]⟩),
   ("Asia/Tokyo", ⟨33539, [.once (-2587712400) 32400, .once (-683802000) 36000,
     .once (-672310800) 32400, .once (-654771600) 36000, .once (-640861200) 32400,
     .yearly 1950 1951 [⟨5, .onOrAfter 6 1, 54000, 36000⟩, ⟨9, .onOrAfter 6 8, 54000, 32400⟩]]⟩),
   ("Asia/Tomsk", ⟨20391, [.once (-1578807591) 21600, .once (-1247551200) 25200,
     .yearly 1981 1983 [⟨3, .on 31, 61200, 28800⟩, ⟨9, .on 30, 57600, 25200⟩],
     .once 449600400 28800, .once 465332400 25200,
     .yearly 1985 1990 [⟨3, .onOrAfter 6 24, 68400, 28800⟩, ⟨9, .onOrAfter 6 23, 68400, 25200⟩],
     .once 686088000 21600, .once 695764800 25200,
     .yearly 1992 1995 [⟨3, .last 6, 68400, 28800⟩, ⟨9, .onOrAfter 6 22, 68400, 25200⟩],
     .yearly 1996 2001 [⟨3, .onOrAfter 6 24, 68400, 28800⟩, ⟨10, .onOrAfter 6 24, 68400, 25200⟩],
     .once 1017514800 28800, .once 1020193200 25200, .once 1035662400 21600,
     .yearly 2003 2010 [⟨3, .onOrAfter 6 23, 72000, 25200⟩, ⟨10, .onOrAfter 6 24, 72000, 21600⟩],
     .once 1301169600 25200, .once 1414263600 21600, .once 1464465600 25200]⟩),
   ("Asia/Ulaanbaatar", ⟨25652, [.once (-2032931252) 25200, .once 252435600 28800,
     .once 417974400 32400, .once 433782000 28800,
     .yearly 1984 1989 [⟨3, .last 6, 57600, 32400⟩, ⟨9, .onOrAfter 6 23, 54000, 28800⟩],
     .yearly 1990 1998 [⟨3, .onOrAfter 6 24, 57600, 32400⟩, ⟨9, .onOrAfter 6 23, 54000, 28800⟩],
     .once 988394400 32400, .once 1001696400 28800,
     .yearly 2002 2006 [⟨3, .onOrAfter 5 23, 64800, 32400⟩, ⟨9, .onOrAfter 5 23, 61200, 28800⟩],
     .yearly 2015 2016 [⟨3, .last 5, 64800, 32400⟩, ⟨9, .onOrAfter 5 22, 54000, 28800⟩]]⟩),
   ("Asia/Urumqi", ⟨21020, [.once (-1325483420) 21600]⟩),
   ("Asia/Ust-Nera", ⟨34374, [.once (-1579426374) 28800, .once (-1247558400) 32400,
     .once 354898800 43200, .once 370699200 39600,
     .yearly 1982 1983 [⟨3, .on 31, 46800, 43200⟩, ⟨9, .on 30, 43200, 39600⟩],
     .once 449586000 43200, .once 465318000 39600,
     .yearly 1985 1990 [⟨3, .onOrAfter 6 24, 54000, 43200⟩, ⟨9, .onOrAfter 6 23, 54000, 39600⟩],
     .once 686073600 36000, .once 695750400 39600,
     .yearly 1992 1995 [⟨3, .last 6, 54000, 43200⟩, ⟨9, .onOrAfter 6 22, 54000, 39600⟩],
     .yearly 1996 2010 [⟨3, .onOrAfter 6 24, 54000, 43200⟩, ⟨10, .onOrAfter 6 24, 54000, 39600⟩],
     .once 1301151600 43200, .once 1315828800 39600, .once 1414249200 36000]⟩),
   ("Asia/Vladivostok", ⟨31651, [.once (-1487321251) 32400, .once (-1247562000) 36000,
     .yearly 1981 1983 [⟨3, .on 31, 50400, 39600⟩, ⟨9, .on 30, 46800, 36000⟩],
     .once 449589600 39600, .once 465321600 36000,
     .yearly 1985 1990 [⟨3, .onOrAfter 6 24, 57600, 39600⟩, ⟨9, .onOrAfter 6 23, 57600, 36000⟩],
     .once 686077200 32400, .once 695754000 36000,
     .yearly 1992 1995 [⟨3, .last 6, 57600, 39600⟩, ⟨9, .onOrAfter 6 22, 57600, 36000⟩],
     .yearly 1996 2010 [⟨3, .onOrAfter 6 24, 57600, 39600⟩, ⟨10, .onOrAfter 6 24, 57600, 36000⟩],
     .once 1301155200 39600, .once 1414249200 36000]⟩),
   ("Asia/Yakutsk", ⟨31138, [.once (-1579423138) 28800, .once (-1247558400) 32400,
     .yearly 1981 1983 [⟨3, .on 31, 54000, 36000⟩, ⟨9, .on 30, 50400, 32400⟩],
     .once 449593200 36000, .once 465325200 32400,
     .yearly 1985 1990 [⟨3, .onOrAfter 6 24, 61200, 36000⟩, ⟨9, .onOrAfter 6 23, 61200, 32400⟩],
     .once 686080800 28800, .once 695757600 32400,
     .yearly 1992 1995 [⟨3, .last 6, 61200, 36000⟩, ⟨9, .onOrAfter 6 22, 61200, 32400⟩],
     .yearly 1996 2010 [⟨3, .onOrAfter 6 24, 61200, 36000⟩, ⟨10, .onOrAfter 6 24, 61200, 32400⟩],
     .once 1301158800 36000, .once 1414252800 32400]⟩),
   ("Asia/Yangon", ⟨23087, [.once (-1577946287) 23400, .once (-873268200) 32400,
     .once (-778410000) 23400]⟩),
   ("Asia/Yekaterinburg", ⟨14553, [.once (-1688270553) 13505, .once (-1592610305) 14400,
     .once (-1247544000) 18000,
     .yearly 1981 1983 [⟨3, .on 31, 68400, 21600⟩, ⟨9, .on 30, 64800, 18000⟩],
     .once 449607600 21600, .once 465339600 18000,
     .yearly 1985 1990 [⟨3, .onOrAfter 6 24, 75600, 21600⟩, ⟨9, .onOrAfter 6 23, 75600, 18000⟩],
     .once 686095200 14400, .once 695772000 18000,
     .yearly 1992 1995 [⟨3, .last 6, 75600, 21600⟩, ⟨9, .onOrAfter 6 22, 75600, 18000⟩],
     .yearly 1996 2010 [⟨3, .onOrAfter 6 24, 75600, 21600⟩, ⟨10, .onOrAfter 6 24, 75600, 18000⟩],
     .once 1301173200 21600, .once 1414267200 18000]⟩),
   ("Asia/Yerevan", ⟨10680, [.once (-1441162680) 10800, .once (-405140400) 14400,
     .yearly 1981 1983 [⟨3, .on 31, 72000, 18000⟩, ⟨9, .on 30, 68400, 14400⟩],
     .once 449611200 18000, .once 465343200 14400,
     .yearly 1985 1990 [⟨3, .onOrAfter 6 24, 79200, 18000⟩, ⟨9, .onOrAfter 6 23, 79200, 14400⟩],
     .once 686098800 10800,
     .yearly 1992 1994 [⟨3, .last 6, 82800, 14400⟩, ⟨9, .last 6, 82800, 10800⟩],
     .once 796172400 14400,
     .yearly 1997 2011 [⟨3, .onOrAfter 6 24, 79200, 18000⟩, ⟨10, .onOrAfter 6 24, 79200, 14400⟩]]⟩)]

end HydroArchive.ZoneTable
