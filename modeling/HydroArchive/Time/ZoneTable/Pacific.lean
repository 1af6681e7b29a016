import HydroArchive.Time.ZoneHistory

/-!
# Zone table: the zones of the Pacific

Each zone with the offset of its first clock and all changes of its clock up to the year 2099.
-/

namespace HydroArchive.ZoneTable

def pacific : List (String × ZoneHistory) :=
  [("Pacific/Apia", ⟨45184, [.once (-2445424384) (-41216), .once (-1861878784) (-41400),
     .once (-631110600) (-39600), .once 1285498800 (-36000), .once 1301752800 (-39600),
     .once 1316872800 (-36000), .once 1325239200 50400,
     .yearly 2012 2020 [⟨4, .onOrAfter 0 1, -36000, 46800⟩, ⟨9, .onOrAfter 6 23, 50400, 50400⟩],
     .once 1617458400 46800]⟩),
   ("Pacific/Auckland", ⟨41944, [.once (-3192435544) 41400, .once (-1330335000) 45000,
     .once (-1320057000) 41400, .once (-1300699800) 43200,
     .yearly 1929 1933 [⟨3, .onOrAfter 6 13, 50400, 41400⟩, ⟨10, .onOrAfter 6 6, 52200, 43200⟩],
     .yearly 1934 1940 [⟨4, .onOrAfter 6 23, 50400, 41400⟩, ⟨9, .onOrAfter 6 23, 52200, 43200⟩],
     .once 152632800 46800, .once 162309600 43200, .once 183477600 46800,
     .yearly 1976 1988 [⟨3, .onOrAfter 0 1, -36000, 43200⟩, ⟨10, .onOrAfter 6 24, 50400, 46800⟩],
     .once 605023200 43200, .once 623772000 46800,
     .yearly 1990 2006 [⟨3, .onOrAfter 6 14, 50400, 43200⟩, ⟨10, .onOrAfter 0 1, -36000, 46800⟩],
     .once 1174140000 43200, .once 1191074400 46800,
     .yearly 2008 2099 [⟨4, .onOrAfter 0 1, -36000, 43200⟩, ⟨9, .onOrAfter 6 23, 50400, 46800⟩]]⟩),
   ("Pacific/Bougainville", ⟨37336, [.once (-2840178136) 35312, .once (-2366790512) 36000,
     .once (-868010400) 32400, .once (-768906000) 36000, .once 1419696000 39600]⟩),
   ("Pacific/Chatham", ⟨44028, [.once (-3192437628) 44100, .once (-757426500) 45900,
     .once 152632800 49500, .once 162309600 45900, .once 183477600 49500,
     .yearly 1976 1988 [⟨3, .onOrAfter 0 1, -36000, 45900⟩, ⟨10, .onOrAfter 6 24, 50400, 49500⟩],
     .once 605023200 45900, .once 623772000 49500,
     .yearly 1990 2006 [⟨3, .onOrAfter 6 14, 50400, 45900⟩, ⟨10, .onOrAfter 0 1, -36000, 49500⟩],
     .once 1174140000 45900, .once 1191074400 49500,
     .yearly 2008 2099 [⟨4, .onOrAfter 0 1, -36000, 45900⟩, ⟨9, .onOrAfter 6 23, 50400, 49500⟩]]⟩),
   ("Pacific/Easter", ⟨-26248, [.once (-1178124152) (-25200), .once (-36619200) (-21600),
     .once (-23922000) (-25200), .once (-3355200) (-21600), .once 7527600 (-25200),
     .once 24465600 (-21600),
     .yearly 1971 1972 [⟨3, .onOrAfter 0 8, 10800, -25200⟩, ⟨10, .onOrAfter 0 10, 14400, -21600⟩],
     .once 100666800 (-25200), .once 118209600 (-21600),
     .yearly 1974 1981 [⟨3, .onOrAfter 0 9, 10800, -25200⟩, ⟨10, .onOrAfter 0 9, 14400, -21600⟩],
     .once 403070400 (-18000),
     .yearly 1983 1986 [⟨3, .onOrAfter 0 8, 10800, -21600⟩, ⟨10, .onOrAfter 0 8, 14400, -18000⟩],
     .once 545194800 (-21600), .once 560923200 (-18000),
     .yearly 1988 1989 [⟨3, .onOrAfter 0 8, 10800, -21600⟩, ⟨10, .onOrAfter 0 9, 14400, -18000⟩],
     .once 637124400 (-21600), .once 653457600 (-18000),
     .yearly 1991 1996 [⟨3, .onOrAfter 0 10, 10800, -21600⟩, ⟨10, .onOrAfter 0 9, 14400, -18000⟩],
     .once 859690800 (-21600), .once 876628800 (-18000), .once 889930800 (-21600),
     .once 906868800 (-18000), .once 923194800 (-21600), .once 939528000 (-18000),
     .yearly 2000 2007 [⟨3, .onOrAfter 0 8, 10800, -21600⟩, ⟨10, .onOrAfter 0 9, 14400, -18000⟩],
     .once 1206846000 (-21600), .once 1223784000 (-18000), .once 1237086000 (-21600),
     .once 1255233600 (-18000), .once 1270350000 (-21600), .once 1286683200 (-18000),
     .once 1304823600 (-21600), .once 1313899200 (-18000),
     .yearly 2012 2014 [⟨4, .last 0, 10800, -21600⟩, ⟨9, .onOrAfter 0 2, 14400, -18000⟩],
     .yearly 2016 2018 [⟨5, .onOrAfter 0 10, 10800, -21600⟩, ⟨8, .onOrAfter 0 8, 14400, -18000⟩],
     .yearly 2019 2022 [⟨4, .onOrAfter 0 1, 10800, -21600⟩, ⟨9, .onOrAfter 0 5, 14400, -18000⟩],
     .yearly 2023 2099 [⟨4, .onOrAfter 0 2, 10800, -21600⟩, ⟨9, .onOrAfter 0 2, 14400, -18000⟩]]⟩),
   ("Pacific/Efate", ⟨40396, [.once (-1829387596) 39600, .once 125409600 43200,
     .once 133876800 39600, .once 433256400 43200,
     .yearly 1984 1991 [⟨3, .onOrAfter 6 22, 43200, 39600⟩, ⟨9, .onOrAfter 6 22, 46800, 43200⟩],
     .once 696340800 39600, .once 719931600 43200, .once 727790400 39600]⟩),
   ("Pacific/Fakaofo", ⟨-41096, [.once (-2177411704) (-39600), .once 1325242800 46800]⟩),
   ("Pacific/Fiji", ⟨42944, [.once (-1709985344) 43200, .once 909842400 46800,
     .once 920124000 43200, .once 941896800 46800, .once 951573600 43200,
     .once 1259416800 46800, .once 1269698400 43200, .once 1287842400 46800,
     .once 1299333600 43200, .once 1319292000 46800,
     .yearly 2012 2013 [⟨1, .onOrAfter 6 15, 50400, 43200⟩, ⟨10, .onOrAfter 6 20, 50400, 46800⟩],
     .once 1390050000 43200, .once 1414850400 46800,
     .yearly 2015 2018 [⟨1, .onOrAfter 6 11, 50400, 43200⟩, ⟨11, .onOrAfter 0 1, -36000, 46800⟩],
     .once 1547301600 43200, .once 1573308000 46800, .once 1578751200 43200,
     .once 1608386400 46800, .once 1610805600 43200]⟩),
   ("Pacific/Galapagos", ⟨-21504, [.once (-1230746496) (-18000), .once 504939600 (-21600),
     .once 722930400 (-18000), .once 728888400 (-21600)]⟩),
   ("Pacific/Gambier", ⟨-32388, [.once (-1806678012) (-32400)]⟩),
   ("Pacific/Guadalcanal", ⟨38388, [.once (-1806748788) 39600]⟩),
   ("Pacific/Guam", ⟨-51660, [.once (-3944626740) 34740, .once (-2177487540) 36000,
     .once (-885549600) 32400, .once (-802256400) 36000, .once (-331891200) 39600,
     .once (-281610000) 36000, .once (-73728000) 39600, .once (-29415540) 36000,
     .once (-16704000) 39600, .once (-10659600) 36000,
     .yearly 1970 1971 [⟨4, .last 6, 57600, 39600⟩, ⟨9, .onOrAfter 6 1, 54000, 36000⟩],
     .once 124819200 39600, .once 130863600 36000, .once 201888000 39600, .once 209487660 36000,
     .once 230659200 39600, .once 241542000 36000]⟩),
   ("Pacific/Honolulu", ⟨-37886, [.once (-2334101314) (-37800), .once (-1157283000) (-34200),
     .once (-1155436200) (-37800), .once (-880198200) (-34200), .once (-765376200) (-37800),
     .once (-712150200) (-36000)]⟩),
   ("Pacific/Kanton", ⟨0, [.once (-1020470400) (-43200), .once 307627200 (-39600),
     .once 788871600 46800]⟩),
   ("Pacific/Kiritimati", ⟨-37760, [.once (-2177415040) (-38400), .once 307622400 (-36000),
     .once 788868000 50400]⟩),
   ("Pacific/Kosrae", ⟨-47284, [.once (-3944631116) 39116, .once (-2177491916) 39600,
     .once (-1743678000) 32400, .once (-1606813200) 39600, .once (-1041418800) 36000,
     .once (-907408800) 32400, .once (-770634000) 39600, .once (-7988400) 43200,
     .once 915105600 39600]⟩),
   ("Pacific/Kwajalein", ⟨40160, [.once (-2177492960) 39600, .once (-1041418800) 36000,
     .once (-907408800) 32400, .once (-817462800) 39600, .once (-7988400) (-43200),
     .once 745934400 43200]⟩),
   ("Pacific/Marquesas", ⟨-33480, [.once (-1806676920) (-34200)]⟩),
   ("Pacific/Nauru", ⟨40060, [.once (-1545131260) 41400, .once (-862918200) 32400,
     .once (-767350800) 41400, .once 287418600 43200]⟩),
   ("Pacific/Niue", ⟨-40780, [.once (-543069620) (-40800), .once (-173623200) (-39600)]⟩),
   ("Pacific/Norfolk", ⟨40312, [.once (-2177493112) 40320, .once (-599656320) 41400,
     .once 152029800 45000, .once 162916200 41400, .once 1443882600 39600,
     .once 1570287600 43200,
     .yearly 2020 2099 [⟨4, .onOrAfter 0 1, -32400, 39600⟩, ⟨10, .onOrAfter 0 1, -32400, 43200⟩]]⟩),
   ("Pacific/Noumea", ⟨39948, [.once (-1829387148) 39600, .once 250002000 43200,
     .once 257342400 39600, .once 281451600 43200, .once 288878400 39600, .once 849366000 43200,
     .once 857228400 39600]⟩),
   ("Pacific/Pago_Pago", ⟨45432, [.once (-2445424632) (-40968), .once (-1861879032) (-39600)]⟩),
   ("Pacific/Palau", ⟨-54124, [.once (-3944624276) 32276, .once (-2177485076) 32400]⟩),
   ("Pacific/Pitcairn", ⟨-31220, [.once (-2177421580) (-30600), .once 893665800 (-28800)]⟩),
   ("Pacific/Port_Moresby", ⟨35320, [.once (-2840176120) 35312, .once (-2366790512) 36000]⟩),
   ("Pacific/Rarotonga", ⟨48056, [.once (-2209555256) (-38344), .once (-543072056) (-37800),
     .once 279714600 (-34200),
     .yearly 1979 1990 [⟨3, .onOrAfter 0 1, 34200, -36000⟩, ⟨10, .last 0, 36000, -34200⟩],
     .once 667992600 (-36000)]⟩),
   ("Pacific/Tahiti", ⟨-35896, [.once (-1806674504) (-36000)]⟩),
   ("Pacific/Tarawa", ⟨41524, [.once (-2177494324) 43200]⟩),
   ("Pacific/Tongatapu", ⟨44352, [.once (-767189952) 44400, .once (-284041200) 46800,
     .once 939214800 50400, .once 953384400 46800, .once 973342800 50400, .once 980596800 46800,
     .once 1004792400 50400, .once 1012046400 46800, .once 1478350800 50400,
     .once 1484398800 46800]⟩)]

end HydroArchive.ZoneTable
