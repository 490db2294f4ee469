/-
# Zones named for the Pacific Ocean

Key definitions: `pacific`, the names of the zones with their records.
-/

namespace PathTemplate.Time.ZoneTable

/-- The records of the zones, by name. -/
def pacific : List (String × String) := [
  ("Pacific/Apia",
    "45184:LMT -41216:LMT -41400:-1130 -39600:-11 -36000:-10 50400:+14 46800:+13|b-2445424384
    c-1861878784 d-631110600 e1285498800 d1301752800 e1316872800 f1325239200 g1333202400
    f1348927200 g1365256800 f1380376800 g1396706400 f1411826400 g1428156000 f1443276000
    g1459605600 f1474725600 g1491055200 f1506175200 g1522504800 f1538229600 g1554559200
    f1569679200 g1586008800 f1601128800 g1617458400|"),
  ("Pacific/Auckland",
    "41944:LMT 41400:NZMT 45000:NZST 43200:NZST 46800:NZDT|b-3192435544 c-1330335000
    b-1320057000 d-1300699800 b-1287396000 d-1269250200 b-1255946400 d-1237800600 b-1224496800
    d-1206351000 b-1192442400 d-1174901400 b-1160992800 d-1143451800 b-1125914400 d-1112607000
    b-1094464800 d-1081157400 b-1063015200 d-1049707800 b-1031565600 d-1018258200 b-1000116000
    d-986808600 b-968061600 d-955359000 b-936612000 d-923304600 e152632800 d162309600
    e183477600 d194968800 e215532000 d226418400 e246981600 d257868000 e278431200 d289317600
    e309880800 d320767200 e341330400 d352216800 e372780000 d384271200 e404834400 d415720800
    e436284000 d447170400 e467733600 d478620000 e499183200 d510069600 e530632800 d541519200
    e562082400 d573573600 e594136800 d605023200 e623772000 d637682400 e655221600 d669132000
    e686671200 d700581600 e718120800 d732636000 e749570400 d764085600 e781020000 d795535200
    e812469600 d826984800 e844524000 d858434400 e875973600 d889884000 e907423200 d921938400
    e938872800 d953388000 e970322400 d984837600 e1002376800 d1016287200 e1033826400 d1047736800
    e1065276000 d1079791200 e1096725600 d1111240800 e1128175200 d1142690400 e1159624800
    d1174140000 e1191074400|2008 d4.1.6.-36000 e9.24.6.-36000"),
  ("Pacific/Bougainville",
    "37336:LMT 35312:PMMT 36000:+10 32400:+09 39600:+11|b-2840178136 c-2366790512 d-868010400
    c-768906000 e1419696000|"),
  ("Pacific/Chatham",
    "44028:LMT 44100:+1215 45900:+1245 49500:+1345|b-3192437628 c-757426500 d152632800
    c162309600 d183477600 c194968800 d215532000 c226418400 d246981600 c257868000 d278431200
    c289317600 d309880800 c320767200 d341330400 c352216800 d372780000 c384271200 d404834400
    c415720800 d436284000 c447170400 d467733600 c478620000 d499183200 c510069600 d530632800
    c541519200 d562082400 c573573600 d594136800 c605023200 d623772000 c637682400 d655221600
    c669132000 d686671200 c700581600 d718120800 c732636000 d749570400 c764085600 d781020000
    c795535200 d812469600 c826984800 d844524000 c858434400 d875973600 c889884000 d907423200
    c921938400 d938872800 c953388000 d970322400 c984837600 d1002376800 c1016287200 d1033826400
    c1047736800 d1065276000 c1079791200 d1096725600 c1111240800 d1128175200 c1142690400
    d1159624800 c1174140000 d1191074400|2008 c4.1.6.-36000 d9.24.6.-36000"),
  ("Pacific/Easter",
    "-26248:LMT -26248:EMT -25200:-07 -21600:-06 -18000:-05|b-2524495352 c-1178124152 d-36619200
    c-23922000 d-3355200 c7527600 d24465600 c37767600 d55915200 c69217200 d87969600 c100666800
    d118209600 c132116400 d150868800 c163566000 d182318400 c195620400 d213768000 c227070000
    d245217600 c258519600 d277272000 c289969200 d308721600 c321418800 d340171200 c353473200
    d371620800 e403070400 d416372400 e434520000 d447822000 e466574400 d479271600 e498024000
    d510721200 e529473600 d545194800 e560923200 d574225200 e592372800 d605674800 e624427200
    d637124400 e653457600 d668574000 e687326400 d700628400 e718776000 d732078000 e750225600
    d763527600 e781675200 d794977200 e813729600 d826426800 e845179200 d859690800 e876628800
    d889930800 e906868800 d923194800 e939528000 d952830000 e971582400 d984279600 e1003032000
    d1015729200 e1034481600 d1047178800 e1065931200 d1079233200 e1097380800 d1110682800
    e1128830400 d1142132400 e1160884800 d1173582000 e1192334400 d1206846000 e1223784000
    d1237086000 e1255233600 d1270350000 e1286683200 d1304823600 e1313899200 d1335668400
    e1346558400 d1367118000 e1378612800 d1398567600 e1410062400 d1463281200 e1471147200
    d1494730800 e1502596800 d1526180400 e1534046400 d1554606000 e1567915200 d1586055600
    e1599364800 d1617505200 e1630814400 d1648954800 e1662868800|2023 d4.2.6.10800 e9.2.6.14400"),
  ("Pacific/Efate",
    "40396:LMT 39600:+11 43200:+12|b-1829387596 c125409600 b133876800 c433256400 b448977600
    c464706000 b480427200 c496760400 b511876800 c528210000 b543931200 c559659600 b575380800
    c591109200 b606830400 c622558800 b638280000 c654008400 b669729600 c686062800 b696340800
    c719931600 b727790400|"),
  ("Pacific/Fakaofo",
    "-41096:LMT -39600:-11 46800:+13|b-2177411704 c1325242800|"),
  ("Pacific/Fiji",
    "42944:LMT 43200:+12 46800:+13|b-1709985344 c909842400 b920124000 c941896800 b951573600
    c1259416800 b1269698400 c1287842400 b1299333600 c1319292000 b1327154400 c1350741600
    b1358604000 c1382796000 b1390050000 c1414850400 b1421503200 c1446300000 b1452952800
    c1478354400 b1484402400 c1509804000 b1515852000 c1541253600 b1547301600 c1573308000
    b1578751200 c1608386400 b1610805600|"),
  ("Pacific/Galapagos",
    "-21504:LMT -18000:-05 -21600:-06|b-1230746496 c504939600 b722930400 c728888400|"),
  ("Pacific/Gambier",
    "-32388:LMT -32400:-09|b-1806678012|"),
  ("Pacific/Guadalcanal",
    "38388:LMT 39600:+11|b-1806748788|"),
  ("Pacific/Guam",
    "-51660:LMT 34740:LMT 36000:GST 32400:+09 39600:GDT 36000:ChST|b-3944626740 c-2177487540
    d-885549600 c-802256400 e-331891200 c-281610000 e-73728000 c-29415540 e-16704000 c-10659600
    e9907200 c21394800 e41356800 c52844400 e124819200 c130863600 e201888000 c209487660
    e230659200 c241542000 f977493600|"),
  ("Pacific/Honolulu",
    "-37886:LMT -37800:HST -34200:HDT -34200:HWT -34200:HPT -36000:HST|b-2334101314 c-1157283000
    b-1155436200 d-880198200 e-769395600 b-765376200 f-712150200|"),
  ("Pacific/Kanton",
    "0:-00 -43200:-12 -39600:-11 46800:+13|b-1020470400 c307627200 d788871600|"),
  ("Pacific/Kiritimati",
    "-37760:LMT -38400:-1040 -36000:-10 50400:+14|b-2177415040 c307622400 d788868000|"),
  ("Pacific/Kosrae",
    "-47284:LMT 39116:LMT 39600:+11 32400:+09 36000:+10 43200:+12|b-3944631116 c-2177491916
    d-1743678000 c-1606813200 e-1041418800 d-907408800 c-770634000 f-7988400 c915105600|"),
  ("Pacific/Kwajalein",
    "40160:LMT 39600:+11 36000:+10 32400:+09 -43200:-12 43200:+12|b-2177492960 c-1041418800
    d-907408800 b-817462800 e-7988400 f745934400|"),
  ("Pacific/Marquesas",
    "-33480:LMT -34200:-0930|b-1806676920|"),
  ("Pacific/Nauru",
    "40060:LMT 41400:+1130 32400:+09 43200:+12|b-1545131260 c-862918200 b-767350800 d287418600|"),
  ("Pacific/Niue",
    "-40780:LMT -40800:-1120 -39600:-11|b-543069620 c-173623200|"),
  ("Pacific/Norfolk",
    "40312:LMT 40320:+1112 41400:+1130 45000:+1230 39600:+11 43200:+12|b-2177493112 c-599656320
    d152029800 c162916200 e1443882600 f1570287600|2020 e4.1.6.-32400 f10.1.6.-32400"),
  ("Pacific/Noumea",
    "39948:LMT 39600:+11 43200:+12|b-1829387148 c250002000 b257342400 c281451600 b288878400
    c849366000 b857228400|"),
  ("Pacific/Pago_Pago",
    "45432:LMT -40968:LMT -39600:SST|b-2445424632 c-1861879032|"),
  ("Pacific/Palau",
    "-54124:LMT 32276:LMT 32400:+09|b-3944624276 c-2177485076|"),
  ("Pacific/Pitcairn",
    "-31220:LMT -30600:-0830 -28800:-08|b-2177421580 c893665800|"),
  ("Pacific/Port_Moresby",
    "35320:LMT 35312:PMMT 36000:+10|b-2840176120 c-2366790512|"),
  ("Pacific/Rarotonga",
    "48056:LMT -38344:LMT -37800:-1030 -34200:-0930 -36000:-10|b-2209555256 c-543072056
    d279714600 e289387800 d309952800 e320837400 d341402400 e352287000 d372852000 e384341400
    d404906400 e415791000 d436356000 e447240600 d467805600 e478690200 d499255200 e510139800
    d530704800 e541589400 d562154400 e573643800 d594208800 e605093400 d625658400 e636543000
    d657108000 e667992600|"),
  ("Pacific/Tahiti",
    "-35896:LMT -36000:-10|b-1806674504|"),
  ("Pacific/Tarawa",
    "41524:LMT 43200:+12|b-2177494324|"),
  ("Pacific/Tongatapu",
    "44352:LMT 44400:+1220 46800:+13 50400:+14|b-767189952 c-284041200 d939214800 c953384400
    d973342800 c980596800 d1004792400 c1012046400 d1478350800 c1484398800|")]

end PathTemplate.Time.ZoneTable
