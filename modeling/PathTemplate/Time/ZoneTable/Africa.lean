/-
# Zones named for Africa

Key definitions: `africa`, the names of the zones with their records.
-/

namespace PathTemplate.Time.ZoneTable

/-- The records of the zones, by name. -/
def africa : List (String × String) := [
  ("Africa/Abidjan",
    "-968:LMT 0:GMT|b-1830383032|"),
  ("Africa/Algiers",
    "732:LMT 561:PMT 0:WET 3600:WEST 3600:CET 7200:CEST|b-2486592732 c-1855958961 d-1689814800
    c-1680397200 d-1665363600 c-1648342800 d-1635123600 c-1616893200 d-1604278800 c-1585443600
    d-1574038800 c-1552266000 d-1539997200 c-1531443600 d-956365200 c-950486400 e-942012000
    f-812502000 e-796262400 f-781052400 e-766630800 c-733280400 e-439430400 c-212029200
    d41468400 c54774000 d231724800 e246236400 f259545600 e275274000 c309740400 d325468800
    c341802000 e357523200|"),
  ("Africa/Bissau",
    "-3740:LMT -3600:-01 0:GMT|b-1830380400 c157770000|"),
  ("Africa/Cairo",
    "7509:LMT 7200:EET 10800:EEST|b-2185409109 c-929844000 b-923108400 c-906170400 b-892868400
    c-875844000 b-857790000 c-844308000 b-825822000 c-812685600 b-794199600 c-779853600
    b-762663600 c-399088800 b-386650800 c-368330400 b-355114800 c-336790800 b-323654400
    c-305168400 b-292032000 c-273632400 b-260496000 c-242096400 b-228960000 c-210560400
    b-197424000 c-178938000 b-165801600 c-147402000 b-134265600 c-115866000 b-102643200
    c-84330000 b-71107200 c-52707600 b-39484800 c-21171600 b-7948800 c10364400 b23587200
    c41900400 b55123200 c73522800 b86745600 c105058800 b118281600 c136594800 b149817600
    c168130800 b181353600 c199753200 b212976000 c231289200 b244512000 c262825200 b276048000
    c294361200 b307584000 c325983600 b339206400 c357519600 b370742400 c396399600 b402278400
    c426812400 b433814400 c452214000 b465436800 c483750000 b496972800 c515286000 b528508800
    c546822000 b560044800 c578444400 b591667200 c610412400 b623203200 c641516400 b654739200
    c673052400 b686275200 c704674800 b717897600 c736210800 b749433600 c767746800 b780969600
    c799020000 b812322000 c830469600 b843771600 c861919200 b875221200 c893368800 b906670800
    c925423200 b938725200 c956872800 b970174800 c988322400 b1001624400 c1019772000 b1033074000
    c1051221600 b1064523600 c1083276000 b1096578000 c1114725600 b1128027600 c1146175200
    b1158872400 c1177624800 b1189112400 c1209074400 b1219957200 c1240524000 b1250802000
    c1272578400 b1281474000 c1284069600 b1285880400 c1400191200 b1403816400 c1406844000
    b1411678800|2023 c4.24.4.-7200 b10.25.3.75600"),
  ("Africa/Casablanca",
    "-1820:LMT 0:+00 3600:+01|b-1773012580 c-956361600 b-950490000 c-942019200 b-761187600
    c-617241600 b-605149200 c-81432000 b-71110800 c141264000 b147222000 c199756800 b207702000
    c231292800 b244249200 c265507200 b271033200 c448243200 b504918000 c1212278400 b1220223600
    c1243814400 b1250809200 c1272758400 b1281222000 c1301788800 b1312066800 c1335664800
    b1342749600 c1345428000 b1348970400 c1367114400 b1373162400 c1376100000 b1382839200
    c1396144800 b1403920800 c1406944800 b1414288800 c1427594400 b1434247200 c1437271200
    b1445738400 c1459044000 b1465092000 c1468116000 b1477792800 c1490493600 b1495332000
    c1498960800 b1509242400 c1521943200 b1526176800 c1529200800 b1557021600 c1560045600
    b1587261600 c1590890400 b1618106400 c1621130400 b1648346400 c1651975200 b1679191200
    c1682215200 b1710036000 c1713060000 b1740276000 c1743904800 b1771120800 c1774144800
    b1801965600 c1804989600 b1832205600 c1835834400 b1863050400 c1866074400 b1893290400
    c1896919200 b1924135200 c1927159200 b1954980000 c1958004000 b1985220000 c1988848800
    b2016064800 c2019088800 b2046304800 c2049933600 b2077149600 c2080778400 b2107994400
    c2111018400 b2138234400 c2141863200 b2169079200 c2172103200 b2199924000 c2202948000
    b2230164000 c2233792800 b2261008800 c2264032800 b2291248800 c2294877600 b2322093600
    c2325722400 b2352938400 c2355962400 b2383178400 c2386807200 b2414023200 c2417047200
    b2444868000 c2447892000 b2475108000 c2478736800 b2505952800 c2508976800 b2536192800
    c2539821600 b2567037600 c2570666400 b2597882400 c2600906400 b2628122400 c2631751200
    b2658967200 c2661991200 b2689812000 c2692836000 b2720052000 c2723680800 b2750896800
    c2753920800 b2781136800 c2784765600 b2811981600 c2815610400 b2842826400 c2845850400
    b2873066400 c2876695200 b2903911200 c2906935200 b2934756000 c2937780000 b2964996000
    c2968624800 b2995840800 c2998864800 b3026080800 c3029709600 b3056925600 c3060554400
    b3087770400 c3090794400 b3118010400 c3121639200 b3148855200 c3151879200 b3179700000
    c3182724000 b3209940000 c3213568800 b3240784800 c3243808800 b3271024800 c3274653600
    b3301869600 c3305498400 b3332714400 c3335738400 b3362954400 c3366583200 b3393799200
    c3396823200 b3424644000 c3427668000 b3454884000 c3458512800 b3485728800 c3488752800
    b3515968800 c3519597600 b3546813600 c3549837600 b3577658400 c3580682400 b3607898400
    c3611527200 b3638743200 c3641767200 b3669588000 c3672612000 b3699828000 c3703456800|"),
  ("Africa/Ceuta",
    "-1276:LMT 0:WET 3600:WEST 3600:CET 7200:CEST|b-2177452800 c-1630112400 b-1616810400
    c-1442451600 b-1427673600 c-1379293200 b-1364774400 c-1348448400 b-1333324800 c-1316390400
    b-1301270400 c-81432000 b-71110800 c141264000 b147222000 c199756800 b207702000 c231292800
    b244249200 c265507200 b271033200 d448243200 e512528400 d528253200 e543978000 d559702800
    e575427600 d591152400 e606877200 d622602000 e638326800 d654656400 e670381200 d686106000
    e701830800 d717555600 e733280400 d749005200 e764730000 d780454800 e796179600
    d811904400|1996 e3.25.6.3600 d10.25.6.3600"),
  ("Africa/El_Aaiun",
    "-3168:LMT -3600:-01 0:+00 3600:+01|b-1136070432 c198291600 d199756800 c207702000 d231292800
    c244249200 d265507200 c271033200 d1212278400 c1220223600 d1243814400 c1250809200
    d1272758400 c1281222000 d1301788800 c1312066800 d1335664800 c1342749600 d1345428000
    c1348970400 d1367114400 c1373162400 d1376100000 c1382839200 d1396144800 c1403920800
    d1406944800 c1414288800 d1427594400 c1434247200 d1437271200 c1445738400 d1459044000
    c1465092000 d1468116000 c1477792800 d1490493600 c1495332000 d1498960800 c1509242400
    d1521943200 c1526176800 d1529200800 c1557021600 d1560045600 c1587261600 d1590890400
    c1618106400 d1621130400 c1648346400 d1651975200 c1679191200 d1682215200 c1710036000
    d1713060000 c1740276000 d1743904800 c1771120800 d1774144800 c1801965600 d1804989600
    c1832205600 d1835834400 c1863050400 d1866074400 c1893290400 d1896919200 c1924135200
    d1927159200 c1954980000 d1958004000 c1985220000 d1988848800 c2016064800 d2019088800
    c2046304800 d2049933600 c2077149600 d2080778400 c2107994400 d2111018400 c2138234400
    d2141863200 c2169079200 d2172103200 c2199924000 d2202948000 c2230164000 d2233792800
    c2261008800 d2264032800 c2291248800 d2294877600 c2322093600 d2325722400 c2352938400
    d2355962400 c2383178400 d2386807200 c2414023200 d2417047200 c2444868000 d2447892000
    c2475108000 d2478736800 c2505952800 d2508976800 c2536192800 d2539821600 c2567037600
    d2570666400 c2597882400 d2600906400 c2628122400 d2631751200 c2658967200 d2661991200
    c2689812000 d2692836000 c2720052000 d2723680800 c2750896800 d2753920800 c2781136800
    d2784765600 c2811981600 d2815610400 c2842826400 d2845850400 c2873066400 d2876695200
    c2903911200 d2906935200 c2934756000 d2937780000 c2964996000 d2968624800 c2995840800
    d2998864800 c3026080800 d3029709600 c3056925600 d3060554400 c3087770400 d3090794400
    c3118010400 d3121639200 c3148855200 d3151879200 c3179700000 d3182724000 c3209940000
    d3213568800 c3240784800 d3243808800 c3271024800 d3274653600 c3301869600 d3305498400
    c3332714400 d3335738400 c3362954400 d3366583200 c3393799200 d3396823200 c3424644000
    d3427668000 c3454884000 d3458512800 c3485728800 d3488752800 c3515968800 d3519597600
    c3546813600 d3549837600 c3577658400 d3580682400 c3607898400 d3611527200 c3638743200
    d3641767200 c3669588000 d3672612000 c3699828000 d3703456800|"),
  ("Africa/Johannesburg",
    "6720:LMT 5400:SAST 7200:SAST 10800:SAST|b-2458173120 c-2109288600 d-860976000 c-845254800
    d-829526400 c-813805200|"),
  ("Africa/Juba",
    "7588:LMT 7200:CAT 10800:CAST 10800:EAT|b-1230775588 c10360800 b24786000 c41810400 b56322000
    c73432800 b87944400 c104882400 b119480400 c136332000 b151016400 c167781600 b182552400
    c199231200 b214174800 c230680800 b245710800 c262735200 b277246800 c294184800 b308782800
    c325634400 b340405200 c357084000 b371941200 c388533600 b403477200 c419983200 b435013200
    c452037600 b466635600 c483487200 b498171600 d947930400 b1612126800|"),
  ("Africa/Khartoum",
    "7808:LMT 7200:CAT 10800:CAST 10800:EAT|b-1230775808 c10360800 b24786000 c41810400 b56322000
    c73432800 b87944400 c104882400 b119480400 c136332000 b151016400 c167781600 b182552400
    c199231200 b214174800 c230680800 b245710800 c262735200 b277246800 c294184800 b308782800
    c325634400 b340405200 c357084000 b371941200 c388533600 b403477200 c419983200 b435013200
    c452037600 b466635600 c483487200 b498171600 d947930400 b1509483600|"),
  ("Africa/Lagos",
    "815:LMT 0:GMT 1800:+0030 3600:WAT|b-2035584815 a-1940889600 c-1767226415 d-1588465800|"),
  ("Africa/Maputo",
    "7818:LMT 7200:CAT|b-1924999818|"),
  ("Africa/Monrovia",
    "-2588:LMT -2588:MMT -2670:MMT 0:GMT|b-2776979812 c-1604359012 d63593070|"),
  ("Africa/Nairobi",
    "8836:LMT 9000:+0230 10800:EAT 9900:+0245|b-1946168836 c-1309746600 b-1261969200
    d-1041388200 c-865305900|"),
  ("Africa/Ndjamena",
    "3612:LMT 3600:WAT 7200:WAST|b-1830387612 c308703600 b321314400|"),
  ("Africa/Sao_Tome",
    "1616:LMT -2205:LMT 0:GMT 3600:WAT|b-2713912016 c-1830384000 d1514768400 c1546304400|"),
  ("Africa/Tripoli",
    "3164:LMT 3600:CET 7200:CEST 7200:EET|b-1577926364 c-574902000 b-568087200 c-512175600
    b-504928800 c-449888400 b-441856800 d-347158800 b378684000 c386463600 b402271200 c417999600
    b433807200 c449622000 b465429600 c481590000 b496965600 c512953200 b528674400 c544230000
    b560037600 c575852400 b591660000 c607388400 b623196000 d641775600 b844034400 c860108400
    d875916000 b1352505600 c1364515200 d1382659200|"),
  ("Africa/Tunis",
    "2444:LMT 561:PMT 3600:CET 7200:CEST|b-2797202444 c-1855958961 d-969242400 c-950493600
    d-941940000 c-891136800 d-877827600 c-857257200 d-844556400 c-842918400 d-842223600
    c-828230400 d-812502000 c-796269600 d-781052400 c-766634400 d231202800 c243903600
    d262825200 c276044400 d581122800 c591145200 d606870000 c622594800 d641516400 c654649200
    d1114902000 c1128038400 d1143334800 c1162083600 d1174784400 c1193533200 d1206838800
    c1224982800|"),
  ("Africa/Windhoek",
    "4104:LMT 5400:+0130 7200:SAST 10800:SAST 7200:CAT 3600:WAT|b-2458170504 c-2109288600
    d-860976000 c-845254800 e637970400 f764200800 e778640400 f796780800 e810090000 f828835200
    e841539600 f860284800 e873594000 f891734400 e905043600 f923184000 e936493200 f954633600
    e967942800 f986083200 e999392400 f1018137600 e1030842000 f1049587200 e1062896400
    f1081036800 e1094346000 f1112486400 e1125795600 f1143936000 e1157245200 f1175385600
    e1188694800 f1207440000 e1220749200 f1238889600 e1252198800 f1270339200 e1283648400
    f1301788800 e1315098000 f1333238400 e1346547600 f1365292800 e1377997200 f1396742400
    e1410051600 f1428192000 e1441501200 f1459641600 e1472950800 f1491091200 e1504400400|")]

end PathTemplate.Time.ZoneTable
