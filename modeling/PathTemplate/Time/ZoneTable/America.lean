/-
# Zones named for America

Key definitions: `america`, the names of the zones with their records.
-/

namespace PathTemplate.Time.ZoneTable

/-- The records of the zones, by name. -/
def america : List (String × String) := [
  ("America/Adak",
    "44002:LMT -42398:LMT -39600:NST -36000:NWT -36000:NPT -39600:BST -36000:BDT -36000:AHST
    -36000:HST -32400:HDT|b-3225223727 c-2188944802 d-880196400 e-769395600 c-765374400
    f-86878800 g-21466800 f-5745600 g9982800 f25704000 g41432400 f57758400 g73486800 f89208000
    g104936400 f120657600 g126709200 f152107200 g162392400 f183556800 g199285200 f215611200
    g230734800 f247060800 g262789200 f278510400 g294238800 f309960000 g325688400 f341409600
    g357138000 f372859200 g388587600 f404913600 g420037200 h436363200 i439034400 j452088000
    i467809200 j483537600 i499258800 j514987200 i530708400 j544622400 i562158000 j576072000
    i594212400 j607521600 i625662000 j638971200 i657111600 j671025600 i688561200 j702475200
    i720010800 j733924800 i752065200 j765374400 i783514800 j796824000 i814964400 j828878400
    i846414000 j860328000 i877863600 j891777600 i909313200 j923227200 i941367600 j954676800
    i972817200 j986126400 i1004266800 j1018180800 i1035716400 j1049630400 i1067166000
    j1081080000 i1099220400 j1112529600 i1130670000 j1143979200 i1162119600|2007 j3.8.6.43200
    i11.1.6.39600"),
  ("America/Anchorage",
    "50424:LMT -35976:LMT -36000:AST -32400:AWT -32400:APT -36000:AHST -32400:AHDT -32400:YST
    -32400:AKST -28800:AKDT|b-3225223727 c-2188951224 d-880200000 e-769395600 c-765378000
    f-86882400 g-21470400 f-5749200 g9979200 f25700400 g41428800 f57754800 g73483200 f89204400
    g104932800 f120654000 g126705600 f152103600 g162388800 f183553200 g199281600 f215607600
    g230731200 f247057200 g262785600 f278506800 g294235200 f309956400 g325684800 f341406000
    g357134400 f372855600 g388584000 f404910000 g420033600 h436359600 i439030800 j452084400
    i467805600 j483534000 i499255200 j514983600 i530704800 j544618800 i562154400 j576068400
    i594208800 j607518000 i625658400 j638967600 i657108000 j671022000 i688557600 j702471600
    i720007200 j733921200 i752061600 j765370800 i783511200 j796820400 i814960800 j828874800
    i846410400 j860324400 i877860000 j891774000 i909309600 j923223600 i941364000 j954673200
    i972813600 j986122800 i1004263200 j1018177200 i1035712800 j1049626800 i1067162400
    j1081076400 i1099216800 j1112526000 i1130666400 j1143975600 i1162116000|2007 j3.8.6.39600
    i11.1.6.36000"),
  ("America/Araguaina",
    "-11568:LMT -10800:-03 -7200:-02|b-1767214032 c-1206957600 b-1191362400 c-1175374800
    b-1159826400 c-633819600 b-622069200 c-602283600 b-591832800 c-570747600 b-560210400
    c-539125200 b-531352800 c-191365200 b-184197600 c-155163600 b-150069600 c-128898000
    b-121125600 c-99954000 b-89589600 c-68418000 b-57967200 c499748400 b511236000 c530593200
    b540266400 c562129200 b571197600 c592974000 b602042400 c624423600 b634701600 c813726000
    b824004000 c844570800 b856058400 c876106800 b888717600 c908074800 b919562400 c938919600
    b951616800 c970974000 b982461600 c1003028400 b1013911200 c1036292400 b1045360800
    c1350788400 b1361066400|"),
  ("America/Argentina/Buenos_Aires",
    "-14028:LMT -15408:CMT -14400:-04 -10800:-03 -7200:-02|b-2372097972 c-1567453392
    d-1233432000 c-1222981200 d-1205956800 c-1194037200 d-1172865600 c-1162501200 d-1141329600
    c-1130965200 d-1109793600 c-1099429200 d-1078257600 c-1067806800 d-1046635200 c-1036270800
    d-1015099200 c-1004734800 d-983563200 c-973198800 d-952027200 c-941576400 d-931032000
    c-900882000 d-890337600 c-833749200 d-827265600 c-752274000 d-733780800 c-197326800
    d-190843200 c-184194000 d-164491200 c-152658000 d-132955200 c-121122000 d-101419200
    c-86821200 d-71092800 c-54766800 d-39038400 c-23317200 d-7588800 e128142000 d136605600
    e596948400 d605066400 e624423600 d636516000 e656478000 d667965600 e687927600 d699415200
    e719377200 d731469600 e1198983600 d1205632800 e1224385200 d1237082400|"),
  ("America/Argentina/Catamarca",
    "-15788:LMT -15408:CMT -14400:-04 -10800:-03 -7200:-02|b-2372096212 c-1567453392
    d-1233432000 c-1222981200 d-1205956800 c-1194037200 d-1172865600 c-1162501200 d-1141329600
    c-1130965200 d-1109793600 c-1099429200 d-1078257600 c-1067806800 d-1046635200 c-1036270800
    d-1015099200 c-1004734800 d-983563200 c-973198800 d-952027200 c-941576400 d-931032000
    c-900882000 d-890337600 c-833749200 d-827265600 c-752274000 d-733780800 c-197326800
    d-190843200 c-184194000 d-164491200 c-152658000 d-132955200 c-121122000 d-101419200
    c-86821200 d-71092800 c-54766800 d-39038400 c-23317200 d-7588800 e128142000 d136605600
    e596948400 d605066400 e624423600 d636516000 e656478000 c667965600 e687931200 d699415200
    e719377200 d731469600 c1086058800 d1087704000 e1198983600 d1205632800|"),
  ("America/Argentina/Cordoba",
    "-15408:LMT -15408:CMT -14400:-04 -10800:-03 -7200:-02|b-2372096592 c-1567453392
    d-1233432000 c-1222981200 d-1205956800 c-1194037200 d-1172865600 c-1162501200 d-1141329600
    c-1130965200 d-1109793600 c-1099429200 d-1078257600 c-1067806800 d-1046635200 c-1036270800
    d-1015099200 c-1004734800 d-983563200 c-973198800 d-952027200 c-941576400 d-931032000
    c-900882000 d-890337600 c-833749200 d-827265600 c-752274000 d-733780800 c-197326800
    d-190843200 c-184194000 d-164491200 c-152658000 d-132955200 c-121122000 d-101419200
    c-86821200 d-71092800 c-54766800 d-39038400 c-23317200 d-7588800 e128142000 d136605600
    e596948400 d605066400 e624423600 d636516000 e656478000 c667965600 e687931200 d699415200
    e719377200 d731469600 e1198983600 d1205632800 e1224385200 d1237082400|"),
  ("America/Argentina/Jujuy",
    "-15672:LMT -15408:CMT -14400:-04 -10800:-03 -7200:-02|b-2372096328 c-1567453392
    d-1233432000 c-1222981200 d-1205956800 c-1194037200 d-1172865600 c-1162501200 d-1141329600
    c-1130965200 d-1109793600 c-1099429200 d-1078257600 c-1067806800 d-1046635200 c-1036270800
    d-1015099200 c-1004734800 d-983563200 c-973198800 d-952027200 c-941576400 d-931032000
    c-900882000 d-890337600 c-833749200 d-827265600 c-752274000 d-733780800 c-197326800
    d-190843200 c-184194000 d-164491200 c-152658000 d-132955200 c-121122000 d-101419200
    c-86821200 d-71092800 c-54766800 d-39038400 c-23317200 d-7588800 e128142000 d136605600
    e596948400 d605066400 e624423600 c636516000 d657086400 c669178800 e686721600 d699415200
    e719377200 d731469600 e1198983600 d1205632800|"),
  ("America/Argentina/La_Rioja",
    "-16044:LMT -15408:CMT -14400:-04 -10800:-03 -7200:-02|b-2372095956 c-1567453392
    d-1233432000 c-1222981200 d-1205956800 c-1194037200 d-1172865600 c-1162501200 d-1141329600
    c-1130965200 d-1109793600 c-1099429200 d-1078257600 c-1067806800 d-1046635200 c-1036270800
    d-1015099200 c-1004734800 d-983563200 c-973198800 d-952027200 c-941576400 d-931032000
    c-900882000 d-890337600 c-833749200 d-827265600 c-752274000 d-733780800 c-197326800
    d-190843200 c-184194000 d-164491200 c-152658000 d-132955200 c-121122000 d-101419200
    c-86821200 d-71092800 c-54766800 d-39038400 c-23317200 d-7588800 e128142000 d136605600
    e596948400 d605066400 e624423600 d636516000 e656478000 c667792800 d673588800 e687927600
    d699415200 e719377200 d731469600 c1086058800 d1087704000 e1198983600 d1205632800|"),
  ("America/Argentina/Mendoza",
    "-16516:LMT -15408:CMT -14400:-04 -10800:-03 -7200:-02|b-2372095484 c-1567453392
    d-1233432000 c-1222981200 d-1205956800 c-1194037200 d-1172865600 c-1162501200 d-1141329600
    c-1130965200 d-1109793600 c-1099429200 d-1078257600 c-1067806800 d-1046635200 c-1036270800
    d-1015099200 c-1004734800 d-983563200 c-973198800 d-952027200 c-941576400 d-931032000
    c-900882000 d-890337600 c-833749200 d-827265600 c-752274000 d-733780800 c-197326800
    d-190843200 c-184194000 d-164491200 c-152658000 d-132955200 c-121122000 d-101419200
    c-86821200 d-71092800 c-54766800 d-39038400 c-23317200 d-7588800 e128142000 d136605600
    e596948400 d605066400 e624423600 c636516000 d655963200 c667796400 d687499200 c699418800
    e719380800 d731469600 c1085281200 d1096171200 e1198983600 d1205632800|"),
  ("America/Argentina/Rio_Gallegos",
    "-16612:LMT -15408:CMT -14400:-04 -10800:-03 -7200:-02|b-2372095388 c-1567453392
    d-1233432000 c-1222981200 d-1205956800 c-1194037200 d-1172865600 c-1162501200 d-1141329600
    c-1130965200 d-1109793600 c-1099429200 d-1078257600 c-1067806800 d-1046635200 c-1036270800
    d-1015099200 c-1004734800 d-983563200 c-973198800 d-952027200 c-941576400 d-931032000
    c-900882000 d-890337600 c-833749200 d-827265600 c-752274000 d-733780800 c-197326800
    d-190843200 c-184194000 d-164491200 c-152658000 d-132955200 c-121122000 d-101419200
    c-86821200 d-71092800 c-54766800 d-39038400 c-23317200 d-7588800 e128142000 d136605600
    e596948400 d605066400 e624423600 d636516000 e656478000 d667965600 e687927600 d699415200
    e719377200 d731469600 c1086058800 d1087704000 e1198983600 d1205632800|"),
  ("America/Argentina/Salta",
    "-15700:LMT -15408:CMT -14400:-04 -10800:-03 -7200:-02|b-2372096300 c-1567453392
    d-1233432000 c-1222981200 d-1205956800 c-1194037200 d-1172865600 c-1162501200 d-1141329600
    c-1130965200 d-1109793600 c-1099429200 d-1078257600 c-1067806800 d-1046635200 c-1036270800
    d-1015099200 c-1004734800 d-983563200 c-973198800 d-952027200 c-941576400 d-931032000
    c-900882000 d-890337600 c-833749200 d-827265600 c-752274000 d-733780800 c-197326800
    d-190843200 c-184194000 d-164491200 c-152658000 d-132955200 c-121122000 d-101419200
    c-86821200 d-71092800 c-54766800 d-39038400 c-23317200 d-7588800 e128142000 d136605600
    e596948400 d605066400 e624423600 d636516000 e656478000 c667965600 e687931200 d699415200
    e719377200 d731469600 e1198983600 d1205632800|"),
  ("America/Argentina/San_Juan",
    "-16444:LMT -15408:CMT -14400:-04 -10800:-03 -7200:-02|b-2372095556 c-1567453392
    d-1233432000 c-1222981200 d-1205956800 c-1194037200 d-1172865600 c-1162501200 d-1141329600
    c-1130965200 d-1109793600 c-1099429200 d-1078257600 c-1067806800 d-1046635200 c-1036270800
    d-1015099200 c-1004734800 d-983563200 c-973198800 d-952027200 c-941576400 d-931032000
    c-900882000 d-890337600 c-833749200 d-827265600 c-752274000 d-733780800 c-197326800
    d-190843200 c-184194000 d-164491200 c-152658000 d-132955200 c-121122000 d-101419200
    c-86821200 d-71092800 c-54766800 d-39038400 c-23317200 d-7588800 e128142000 d136605600
    e596948400 d605066400 e624423600 d636516000 e656478000 c667792800 d673588800 e687927600
    d699415200 e719377200 d731469600 c1085972400 d1090728000 e1198983600 d1205632800|"),
  ("America/Argentina/San_Luis",
    "-15924:LMT -15408:CMT -14400:-04 -10800:-03 -7200:-02|b-2372096076 c-1567453392
    d-1233432000 c-1222981200 d-1205956800 c-1194037200 d-1172865600 c-1162501200 d-1141329600
    c-1130965200 d-1109793600 c-1099429200 d-1078257600 c-1067806800 d-1046635200 c-1036270800
    d-1015099200 c-1004734800 d-983563200 c-973198800 d-952027200 c-941576400 d-931032000
    c-900882000 d-890337600 c-833749200 d-827265600 c-752274000 d-733780800 c-197326800
    d-190843200 c-184194000 d-164491200 c-152658000 d-132955200 c-121122000 d-101419200
    c-86821200 d-71092800 c-54766800 d-39038400 c-23317200 d-7588800 e128142000 d136605600
    e596948400 d605066400 e624423600 c637380000 d655963200 c667796400 d675748800 c1085972400
    d1090728000 e1198983600 d1200880800 c1205031600 d1223784000 c1236481200 d1255233600|"),
  ("America/Argentina/Tucuman",
    "-15652:LMT -15408:CMT -14400:-04 -10800:-03 -7200:-02|b-2372096348 c-1567453392
    d-1233432000 c-1222981200 d-1205956800 c-1194037200 d-1172865600 c-1162501200 d-1141329600
    c-1130965200 d-1109793600 c-1099429200 d-1078257600 c-1067806800 d-1046635200 c-1036270800
    d-1015099200 c-1004734800 d-983563200 c-973198800 d-952027200 c-941576400 d-931032000
    c-900882000 d-890337600 c-833749200 d-827265600 c-752274000 d-733780800 c-197326800
    d-190843200 c-184194000 d-164491200 c-152658000 d-132955200 c-121122000 d-101419200
    c-86821200 d-71092800 c-54766800 d-39038400 c-23317200 d-7588800 e128142000 d136605600
    e596948400 d605066400 e624423600 d636516000 e656478000 c667965600 e687931200 d699415200
    e719377200 d731469600 c1086058800 d1087099200 e1198983600 d1205632800 e1224385200
    d1237082400|"),
  ("America/Argentina/Ushuaia",
    "-16392:LMT -15408:CMT -14400:-04 -10800:-03 -7200:-02|b-2372095608 c-1567453392
    d-1233432000 c-1222981200 d-1205956800 c-1194037200 d-1172865600 c-1162501200 d-1141329600
    c-1130965200 d-1109793600 c-1099429200 d-1078257600 c-1067806800 d-1046635200 c-1036270800
    d-1015099200 c-1004734800 d-983563200 c-973198800 d-952027200 c-941576400 d-931032000
    c-900882000 d-890337600 c-833749200 d-827265600 c-752274000 d-733780800 c-197326800
    d-190843200 c-184194000 d-164491200 c-152658000 d-132955200 c-121122000 d-101419200
    c-86821200 d-71092800 c-54766800 d-39038400 c-23317200 d-7588800 e128142000 d136605600
    e596948400 d605066400 e624423600 d636516000 e656478000 d667965600 e687927600 d699415200
    e719377200 d731469600 c1085886000 d1087704000 e1198983600 d1205632800|"),
  ("America/Asuncion",
    "-13840:LMT -13840:AMT -14400:-04 -10800:-03|b-2524507760 c-1206389360 d86760000 c134017200
    d181368000 c194497200 d212990400 c226033200 d244526400 c257569200 d276062400 c291783600
    d307598400 c323406000 d339220800 c354942000 d370756800 c386478000 d402292800 c418014000
    d433828800 c449636400 d465451200 c481172400 d496987200 c512708400 d528523200 c544244400
    d560059200 c575866800 d591681600 c607402800 d625032000 c638938800 d654753600 c670474800
    d686721600 c699418800 d718257600 c733546800 d749448000 c762318000 d780984000 c793767600
    d812520000 c825649200 d844574400 c856666800 d876024000 c888721200 d907473600 c920775600
    d938923200 c952225200 d970372800 c983674800 d1002427200 c1018148400 d1030852800 c1049598000
    d1062907200 c1081047600 d1097985600 c1110682800 d1129435200 c1142132400 d1160884800
    c1173582000 d1192939200 c1205031600 d1224388800 c1236481200 d1255838400 c1270954800
    d1286078400 c1302404400 d1317528000 c1333854000 d1349582400 c1364094000 d1381032000
    c1395543600 d1412481600 c1426993200 d1443931200 c1459047600 d1475380800 c1490497200
    d1506830400 c1521946800 d1538884800 c1553396400 d1570334400 c1584846000 d1601784000
    c1616900400 d1633233600 c1648350000 d1664683200 c1679799600 d1696132800 c1711249200
    d1728187200|"),
  ("America/Bahia",
    "-9244:LMT -10800:-03 -7200:-02|b-1767216356 c-1206957600 b-1191362400 c-1175374800
    b-1159826400 c-633819600 b-622069200 c-602283600 b-591832800 c-570747600 b-560210400
    c-539125200 b-531352800 c-191365200 b-184197600 c-155163600 b-150069600 c-128898000
    b-121125600 c-99954000 b-89589600 c-68418000 b-57967200 c499748400 b511236000 c530593200
    b540266400 c562129200 b571197600 c592974000 b602042400 c624423600 b634701600 c656478000
    b666756000 c687927600 b697600800 c719982000 b728445600 c750826800 b761709600 c782276400
    b793159200 c813726000 b824004000 c844570800 b856058400 c876106800 b888717600 c908074800
    b919562400 c938919600 b951616800 c970974000 b982461600 c1003028400 b1013911200 c1036292400
    b1045360800 c1318734000 b1330221600|"),
  ("America/Bahia_Banderas",
    "-25260:LMT -25200:MST -21600:CST -21600:MDT -18000:CDT|b-1514739600 c-1343149200
    b-1234807200 d-1220461200 b-1207159200 c-1191344400 b-873828000 d828867600 b846403200
    d860317200 b877852800 d891766800 b909302400 d923216400 b941356800 d954666000 b972806400
    d989139600 b1001836800 d1018170000 b1035705600 d1049619600 b1067155200 d1081069200
    b1099209600 d1112518800 b1130659200 d1143968400 b1162108800 d1175418000 b1193558400
    d1207472400 b1225008000 d1238922000 b1256457600 e1270371600 c1288508400 e1301817600
    c1319958000 e1333267200 c1351407600 e1365321600 c1382857200 e1396771200 c1414306800
    e1428220800 c1445756400 e1459670400 c1477810800 e1491120000 c1509260400 e1522569600
    c1540710000 e1554624000 c1572159600 e1586073600 c1603609200 e1617523200 c1635663600
    e1648972800 c1667113200|"),
  ("America/Barbados",
    "-14309:LMT -14400:AST -10800:ADT -12600:-0330|b-1841256091 c-874263600 b-862682400
    c-841604400 b-830714400 d-811882800 b-798660000 c234943200 b244616400 c261554400 b276066000
    c293004000 b307515600 c325058400 b338706000|"),
  ("America/Belem",
    "-11636:LMT -10800:-03 -7200:-02|b-1767213964 c-1206957600 b-1191362400 c-1175374800
    b-1159826400 c-633819600 b-622069200 c-602283600 b-591832800 c-570747600 b-560210400
    c-539125200 b-531352800 c-191365200 b-184197600 c-155163600 b-150069600 c-128898000
    b-121125600 c-99954000 b-89589600 c-68418000 b-57967200 c499748400 b511236000 c530593200
    b540266400 c562129200 b571197600|"),
  ("America/Belize",
    "-21168:LMT -21600:CST -19800:-0530 -18000:CWT -18000:CPT -18000:CDT|b-1822500432
    c-1616954400 b-1606069800 c-1585504800 b-1574015400 c-1554055200 b-1542565800 c-1522605600
    b-1511116200 c-1490551200 b-1479666600 c-1459101600 b-1448217000 c-1427652000 b-1416162600
    c-1396202400 b-1384713000 c-1364752800 b-1353263400 c-1333303200 b-1321813800 c-1301248800
    b-1290364200 c-1269799200 b-1258914600 c-1238349600 b-1226860200 c-1206900000 b-1195410600
    c-1175450400 b-1163961000 c-1143396000 b-1132511400 c-1111946400 b-1101061800 c-1080496800
    b-1069612200 c-1049047200 b-1037557800 c-1017597600 b-1006108200 c-986148000 b-974658600
    c-954093600 b-943209000 c-922644000 b-911759400 c-891194400 b-879705000 d-868212000
    e-769395600 b-758746800 c-701892000 b-690402600 c-670442400 b-658953000 c-638992800
    b-627503400 c-606938400 b-596053800 c-575488800 b-564604200 c-544039200 b-532549800
    c-512589600 b-501100200 c-481140000 b-469650600 c-449690400 b-438201000 c-417636000
    b-406751400 c-386186400 b-375301800 c-354736800 b-343247400 c-323287200 b-311797800
    c-291837600 b-280348200 c-259783200 b-248898600 c-228333600 b-217449000 c-196884000
    b-185999400 c-165434400 b-153945000 c-133984800 b-122495400 c-102535200 b-91045800
    c-70480800 b-59596200 f123919200 b129618000 f409039200 b413874000|"),
  ("America/Boa_Vista",
    "-14560:LMT -14400:-04 -10800:-03|b-1767211040 c-1206954000 b-1191358800 c-1175371200
    b-1159822800 c-633816000 b-622065600 c-602280000 b-591829200 c-570744000 b-560206800
    c-539121600 b-531349200 c-191361600 b-184194000 c-155160000 b-150066000 c-128894400
    b-121122000 c-99950400 b-89586000 c-68414400 b-57963600 c499752000 b511239600 c530596800
    b540270000 c562132800 b571201200 c938923200 b951620400 c970977600 b971578800|"),
  ("America/Bogota",
    "-17776:LMT -17776:BMT -18000:-05 -14400:-04|b-2707671824 c-1739041424 d704869200 c729057600|"),
  ("America/Boise",
    "-27889:LMT -28800:PST -25200:PDT -25200:MST -21600:MWT -21600:MPT -21600:MDT|b-2717640000
    c-1633269600 b-1615129200 c-1601820000 b-1583679600 d-1471788000 e-880210800 f-769395600
    d-765388800 g-84380400 d-68659200 g-52930800 d-37209600 g-21481200 d-5760000 g9968400
    d25689600 g41418000 d57744000 g73472400 d89193600 g104922000 d120643200 g129114000
    d152092800 g162378000 d183542400 g199270800 d215596800 g230720400 d247046400 g262774800
    d278496000 g294224400 d309945600 g325674000 d341395200 g357123600 d372844800 g388573200
    d404899200 g420022800 d436348800 g452077200 d467798400 g483526800 d499248000 g514976400
    d530697600 g544611600 d562147200 g576061200 d594201600 g607510800 d625651200 g638960400
    d657100800 g671014800 d688550400 g702464400 d720000000 g733914000 d752054400 g765363600
    d783504000 g796813200 d814953600 g828867600 d846403200 g860317200 d877852800 g891766800
    d909302400 g923216400 d941356800 g954666000 d972806400 g986115600 d1004256000 g1018170000
    d1035705600 g1049619600 d1067155200 g1081069200 d1099209600 g1112518800 d1130659200
    g1143968400 d1162108800|2007 g3.8.6.32400 d11.1.6.28800"),
  ("America/Cambridge_Bay",
    "0:-00 -25200:MST -21600:MWT -21600:MPT -21600:MDT -21600:CST -18000:CDT
    -18000:EST|b-1577923200 c-880210800 d-769395600 b-765388800 e73472400 b89193600 e104922000
    b120643200 e136371600 b152092800 e167821200 b183542400 e199270800 b215596800 e230720400
    b247046400 e262774800 b278496000 e294224400 b309945600 e325674000 b341395200 e357123600
    b372844800 e388573200 b404899200 e420022800 b436348800 e452077200 b467798400 e483526800
    b499248000 e514976400 b530697600 e544611600 b562147200 e576061200 b594201600 e607510800
    b625651200 e638960400 b657100800 e671014800 b688550400 e702464400 b720000000 e733914000
    b752054400 e765363600 b783504000 e796813200 b814953600 e828867600 b846403200 e860317200
    b877852800 e891766800 b909302400 e923216400 f941356800 g954662400 h972802800 f973400400
    e986115600 b1004256000 e1018170000 b1035705600 e1049619600 b1067155200 e1081069200
    b1099209600 e1112518800 b1130659200 e1143968400 b1162108800|2007 e3.8.6.32400 b11.1.6.28800"),
  ("America/Campo_Grande",
    "-13108:LMT -14400:-04 -10800:-03|b-1767212492 c-1206954000 b-1191358800 c-1175371200
    b-1159822800 c-633816000 b-622065600 c-602280000 b-591829200 c-570744000 b-560206800
    c-539121600 b-531349200 c-191361600 b-184194000 c-155160000 b-150066000 c-128894400
    b-121122000 c-99950400 b-89586000 c-68414400 b-57963600 c499752000 b511239600 c530596800
    b540270000 c562132800 b571201200 c592977600 b602046000 c624427200 b634705200 c656481600
    b666759600 c687931200 b697604400 c719985600 b728449200 c750830400 b761713200 c782280000
    b793162800 c813729600 b824007600 c844574400 b856062000 c876110400 b888721200 c908078400
    b919566000 c938923200 b951620400 c970977600 b982465200 c1003032000 b1013914800 c1036296000
    b1045364400 c1066536000 b1076814000 c1099368000 b1108868400 c1129435200 b1140318000
    c1162699200 b1172372400 c1192334400 b1203217200 c1224388800 b1234666800 c1255838400
    b1266721200 c1287288000 b1298170800 c1318737600 b1330225200 c1350792000 b1361070000
    c1382241600 b1392519600 c1413691200 b1424574000 c1445140800 b1456023600 c1476590400
    b1487473200 c1508040000 b1518922800 c1541304000 b1550372400|"),
  ("America/Cancun",
    "-20824:LMT -21600:CST -18000:EST -18000:CDT -14400:EDT|b-1514743200 c378201600 b410504400
    d828864000 b846399600 d860313600 c877849200 e891759600 d902037600 b909298800 d923212800
    b941353200 d954662400 b972802800 d989136000 b1001833200 d1018166400 b1035702000 d1049616000
    b1067151600 d1081065600 b1099206000 d1112515200 b1130655600 d1143964800 b1162105200
    d1175414400 b1193554800 d1207468800 b1225004400 d1238918400 b1256454000 d1270368000
    b1288508400 d1301817600 b1319958000 d1333267200 b1351407600 d1365321600 b1382857200
    d1396771200 b1414306800 c1422777600|"),
  ("America/Caracas",
    "-16064:LMT -16060:CMT -16200:-0430 -14400:-04|b-2524505536 c-1826739140 d-157750200
    c1197183600 d1462086000|"),
  ("America/Cayenne",
    "-12560:LMT -14400:-04 -10800:-03|b-1846269040 c-71092800|"),
  ("America/Chicago",
    "-21036:LMT -21600:CST -18000:CDT -18000:EST -18000:CWT -18000:CPT|b-2717647200 c-1633276800
    b-1615136400 c-1601827200 b-1583686800 c-1563724800 b-1551632400 c-1538928000 b-1520182800
    c-1504454400 b-1491757200 c-1473004800 b-1459702800 c-1441555200 b-1428253200 c-1410105600
    b-1396803600 c-1378656000 b-1365354000 c-1347206400 b-1333904400 c-1315152000 b-1301850000
    c-1283702400 b-1270400400 c-1252252800 b-1238950800 c-1220803200 b-1207501200 c-1189353600
    b-1176051600 c-1157299200 b-1144602000 c-1125849600 b-1112547600 c-1094400000 b-1081098000
    d-1067788800 b-1045414800 c-1031500800 b-1018198800 c-1000051200 b-986749200 c-967996800
    b-955299600 c-936547200 b-923245200 c-905097600 b-891795600 e-880214400 f-769395600
    b-765392400 c-747244800 b-733942800 c-715795200 b-702493200 c-684345600 b-671043600
    c-652896000 b-639594000 c-620841600 b-608144400 c-589392000 b-576090000 c-557942400
    b-544640400 c-526492800 b-513190800 c-495043200 b-481741200 c-463593600 b-447267600
    c-431539200 b-415818000 c-400089600 b-384368400 c-368640000 b-352918800 c-337190400
    b-321469200 c-305740800 b-289414800 c-273686400 b-257965200 c-242236800 b-226515600
    c-210787200 b-195066000 c-179337600 b-163616400 c-147888000 b-131562000 c-116438400
    b-100112400 c-84384000 b-68662800 c-52934400 b-37213200 c-21484800 b-5763600 c9964800
    b25686000 c41414400 b57740400 c73468800 b89190000 c104918400 b120639600 c126691200
    b152089200 c162374400 b183538800 c199267200 b215593200 c230716800 b247042800 c262771200
    b278492400 c294220800 b309942000 c325670400 b341391600 c357120000 b372841200 c388569600
    b404895600 c420019200 b436345200 c452073600 b467794800 c483523200 b499244400 c514972800
    b530694000 c544608000 b562143600 c576057600 b594198000 c607507200 b625647600 c638956800
    b657097200 c671011200 b688546800 c702460800 b719996400 c733910400 b752050800 c765360000
    b783500400 c796809600 b814950000 c828864000 b846399600 c860313600 b877849200 c891763200
    b909298800 c923212800 b941353200 c954662400 b972802800 c986112000 b1004252400 c1018166400
    b1035702000 c1049616000 b1067151600 c1081065600 b1099206000 c1112515200 b1130655600
    c1143964800 b1162105200|2007 c3.8.6.28800 b11.1.6.25200"),
  ("America/Chihuahua",
    "-25460:LMT -25200:MST -21600:CST -21600:MDT -18000:CDT|b-1514739600 c-1343149200
    b-1234807200 d-1220461200 b-1207159200 c-1191344400 e828864000 c846399600 e860313600
    c877849200 d891766800 b909302400 d923216400 b941356800 d954666000 b972806400 d989139600
    b1001836800 d1018170000 b1035705600 d1049619600 b1067155200 d1081069200 b1099209600
    d1112518800 b1130659200 d1143968400 b1162108800 d1175418000 b1193558400 d1207472400
    b1225008000 d1238922000 b1256457600 d1270371600 b1288512000 d1301821200 b1319961600
    d1333270800 b1351411200 d1365325200 b1382860800 d1396774800 b1414310400 d1428224400
    b1445760000 d1459674000 b1477814400 d1491123600 b1509264000 d1522573200 b1540713600
    d1554627600 b1572163200 d1586077200 b1603612800 d1617526800 b1635667200 d1648976400
    c1667116800|"),
  ("America/Ciudad_Juarez",
    "-25556:LMT -25200:MST -21600:CST -21600:MDT -18000:CDT|b-1514739600 c-1343149200
    b-1234807200 d-1220461200 b-1207159200 c-1191344400 e828864000 c846399600 e860313600
    c877849200 d891766800 b909302400 d923216400 b941356800 d954666000 b972806400 d989139600
    b1001836800 d1018170000 b1035705600 d1049619600 b1067155200 d1081069200 b1099209600
    d1112518800 b1130659200 d1143968400 b1162108800 d1175418000 b1193558400 d1207472400
    b1225008000 d1238922000 b1256457600 d1268557200 b1289116800 d1300006800 b1320566400
    d1331456400 b1352016000 d1362906000 b1383465600 d1394355600 b1414915200 d1425805200
    b1446364800 d1457859600 b1478419200 d1489309200 b1509868800 d1520758800 b1541318400
    d1552208400 b1572768000 d1583658000 b1604217600 d1615712400 b1636272000 d1647162000
    c1667116800 b1669788000|2023 d3.8.6.32400 b11.1.6.28800"),
  ("America/Costa_Rica",
    "-20173:LMT -20173:SJMT -21600:CST -18000:CDT|b-2524501427 c-1545071027 d288770400
    c297234000 d320220000 c328683600 d664264800 c678344400 d695714400 c700635600|"),
  ("America/Coyhaique",
    "-17296:LMT -16965:SMT -18000:-05 -14400:-04 -10800:-03|b-2524504304 c-1892661435
    b-1688410800 d-1619205435 b-1593806400 d-1335986235 c-1317585600 d-1304362800 c-1286049600
    d-1272826800 c-1254513600 d-1241290800 c-1222977600 d-1209754800 c-1191355200 d-1178132400
    c-870552000 d-865278000 c-718056000 d-713649600 e-36619200 d-23922000 e-3355200 d7527600
    e24465600 d37767600 e55915200 d69217200 e87969600 d100666800 e118209600 d132116400
    e150868800 d163566000 e182318400 d195620400 e213768000 d227070000 e245217600 d258519600
    e277272000 d289969200 e308721600 d321418800 e340171200 d353473200 e371620800 d384922800
    e403070400 d416372400 e434520000 d447822000 e466574400 d479271600 e498024000 d510721200
    e529473600 d545194800 e560923200 d574225200 e592372800 d605674800 e624427200 d637124400
    e653457600 d668574000 e687326400 d700628400 e718776000 d732078000 e750225600 d763527600
    e781675200 d794977200 e813729600 d826426800 e845179200 d859690800 e876628800 d889930800
    e906868800 d923194800 e939528000 d952830000 e971582400 d984279600 e1003032000 d1015729200
    e1034481600 d1047178800 e1065931200 d1079233200 e1097380800 d1110682800 e1128830400
    d1142132400 e1160884800 d1173582000 e1192334400 d1206846000 e1223784000 d1237086000
    e1255233600 d1270350000 e1286683200 d1304823600 e1313899200 d1335668400 e1346558400
    d1367118000 e1378612800 d1398567600 e1410062400 d1463281200 e1471147200 d1494730800
    e1502596800 d1526180400 e1534046400 d1554606000 e1567915200 d1586055600 e1599364800
    d1617505200 e1630814400 d1648954800 e1662868800 d1680404400 e1693713600 d1712458800
    e1725768000|"),
  ("America/Cuiaba",
    "-13460:LMT -14400:-04 -10800:-03|b-1767212140 c-1206954000 b-1191358800 c-1175371200
    b-1159822800 c-633816000 b-622065600 c-602280000 b-591829200 c-570744000 b-560206800
    c-539121600 b-531349200 c-191361600 b-184194000 c-155160000 b-150066000 c-128894400
    b-121122000 c-99950400 b-89586000 c-68414400 b-57963600 c499752000 b511239600 c530596800
    b540270000 c562132800 b571201200 c592977600 b602046000 c624427200 b634705200 c656481600
    b666759600 c687931200 b697604400 c719985600 b728449200 c750830400 b761713200 c782280000
    b793162800 c813729600 b824007600 c844574400 b856062000 c876110400 b888721200 c908078400
    b919566000 c938923200 b951620400 c970977600 b982465200 c1003032000 b1013914800 c1036296000
    b1045364400 c1099368000 b1108868400 c1129435200 b1140318000 c1162699200 b1172372400
    c1192334400 b1203217200 c1224388800 b1234666800 c1255838400 b1266721200 c1287288000
    b1298170800 c1318737600 b1330225200 c1350792000 b1361070000 c1382241600 b1392519600
    c1413691200 b1424574000 c1445140800 b1456023600 c1476590400 b1487473200 c1508040000
    b1518922800 c1541304000 b1550372400|"),
  ("America/Danmarkshavn",
    "-4480:LMT -10800:-03 -7200:-02 0:GMT|b-1686091520 c323845200 b338950800 c354675600
    b370400400 c386125200 b401850000 c417574800 b433299600 c449024400 b465354000 c481078800
    b496803600 c512528400 b528253200 c543978000 b559702800 c575427600 b591152400 c606877200
    b622602000 c638326800 b654656400 c670381200 b686106000 c701830800 b717555600 c733280400
    b749005200 c764730000 b780454800 c796179600 b811904400 d820465200|"),
  ("America/Dawson",
    "-33460:LMT -32400:YST -28800:YDT -28800:YWT -28800:YPT -25200:YDDT -28800:PST -25200:PDT
    -25200:MST|b-2188996940 c-1632056400 b-1615125600 c-1596978000 b-1583164800 d-880203600
    e-769395600 b-765381600 f-147884400 b-131554800 g120646800 h325677600 g341398800 h357127200
    g372848400 h388576800 g404902800 h420026400 g436352400 h452080800 g467802000 h483530400
    g499251600 h514980000 g530701200 h544615200 g562150800 h576064800 g594205200 h607514400
    g625654800 h638964000 g657104400 h671018400 g688554000 h702468000 g720003600 h733917600
    g752058000 h765367200 g783507600 h796816800 g814957200 h828871200 g846406800 h860320800
    g877856400 h891770400 g909306000 h923220000 g941360400 h954669600 g972810000 h986119200
    g1004259600 h1018173600 g1035709200 h1049623200 g1067158800 h1081072800 g1099213200
    h1112522400 g1130662800 h1143972000 g1162112400 h1173607200 g1194166800 h1205056800
    g1225616400 h1236506400 g1257066000 h1268560800 g1289120400 h1300010400 g1320570000
    h1331460000 g1352019600 h1362909600 g1383469200 h1394359200 g1414918800 h1425808800
    g1446368400 h1457863200 g1478422800 h1489312800 g1509872400 h1520762400 g1541322000
    h1552212000 g1572771600 h1583661600 i1604214000|"),
  ("America/Dawson_Creek",
    "-28856:LMT -28800:PST -25200:PDT -25200:PWT -25200:PPT -25200:MST|b-2713881544 c-1632060000
    b-1615129200 d-880207200 e-769395600 b-765385200 c-715788000 b-702486000 c-684338400
    b-671036400 c-652888800 b-639586800 c-620834400 b-608137200 c-589384800 b-576082800
    c-557935200 b-544633200 c-526485600 b-513183600 c-495036000 b-481734000 c-463586400
    b-450284400 c-431532000 b-418230000 c-400082400 b-386780400 c-368632800 b-355330800
    c-337183200 b-323881200 c-305733600 b-292431600 c-273679200 b-260982000 c-242229600
    b-226508400 c-210780000 b-195058800 c-179330400 b-163609200 c-147880800 b-131554800
    c-116431200 b-100105200 c-84376800 b-68655600 c-52927200 b-37206000 c-21477600 b-5756400
    c9972000 b25693200 c41421600 b57747600 c73476000 f84013200|"),
  ("America/Denver",
    "-25196:LMT -25200:MST -21600:MDT -21600:MWT -21600:MPT|b-2717643600 c-1633273200
    b-1615132800 c-1601823600 b-1583683200 c-1570374000 b-1551628800 c-1538924400 b-1534089600
    d-880210800 e-769395600 b-765388800 c-147884400 b-131558400 c-116434800 b-100108800
    c-84380400 b-68659200 c-52930800 b-37209600 c-21481200 b-5760000 c9968400 b25689600
    c41418000 b57744000 c73472400 b89193600 c104922000 b120643200 c126694800 b152092800
    c162378000 b183542400 c199270800 b215596800 c230720400 b247046400 c262774800 b278496000
    c294224400 b309945600 c325674000 b341395200 c357123600 b372844800 c388573200 b404899200
    c420022800 b436348800 c452077200 b467798400 c483526800 b499248000 c514976400 b530697600
    c544611600 b562147200 c576061200 b594201600 c607510800 b625651200 c638960400 b657100800
    c671014800 b688550400 c702464400 b720000000 c733914000 b752054400 c765363600 b783504000
    c796813200 b814953600 c828867600 b846403200 c860317200 b877852800 c891766800 b909302400
    c923216400 b941356800 c954666000 b972806400 c986115600 b1004256000 c1018170000 b1035705600
    c1049619600 b1067155200 c1081069200 b1099209600 c1112518800 b1130659200 c1143968400
    b1162108800|2007 c3.8.6.32400 b11.1.6.28800"),
  ("America/Detroit",
    "-19931:LMT -21600:CST -18000:EST -14400:EWT -14400:EPT -14400:EDT|b-2051202469 c-1724083200
    d-880218000 e-769395600 c-765396000 f-684349200 c-671047200 f-80506740 c-68666400
    f-52938000 c-37216800 f104914800 c120636000 f126687600 c152085600 f167814000 c183535200
    f199263600 c215589600 f230713200 c247039200 f262767600 c278488800 f294217200 c309938400
    f325666800 c341388000 f357116400 c372837600 f388566000 c404892000 f420015600 c436341600
    f452070000 c467791200 f483519600 c499240800 f514969200 c530690400 f544604400 c562140000
    f576054000 c594194400 f607503600 c625644000 f638953200 c657093600 f671007600 c688543200
    f702457200 c719992800 f733906800 c752047200 f765356400 c783496800 f796806000 c814946400
    f828860400 c846396000 f860310000 c877845600 f891759600 c909295200 f923209200 c941349600
    f954658800 c972799200 f986108400 c1004248800 f1018162800 c1035698400 f1049612400
    c1067148000 f1081062000 c1099202400 f1112511600 c1130652000 f1143961200 c1162101600|2007
    f3.8.6.25200 c11.1.6.21600"),
  ("America/Edmonton",
    "-27232:LMT -25200:MST -21600:MDT -21600:MWT -21600:MPT|b-1998663968 c-1632063600
    b-1615132800 c-1600614000 b-1596816000 c-1567954800 b-1551628800 c-1536505200 b-1523203200
    c-1504450800 b-1491753600 c-1473001200 b-1459699200 d-880210800 e-769395600 b-765388800
    c-715791600 b-702489600 c73472400 b89193600 c104922000 b120643200 c136371600 b152092800
    c167821200 b183542400 c199270800 b215596800 c230720400 b247046400 c262774800 b278496000
    c294224400 b309945600 c325674000 b341395200 c357123600 b372844800 c388573200 b404899200
    c420022800 b436348800 c452077200 b467798400 c483526800 b499248000 c514976400 b530697600
    c544611600 b562147200 c576061200 b594201600 c607510800 b625651200 c638960400 b657100800
    c671014800 b688550400 c702464400 b720000000 c733914000 b752054400 c765363600 b783504000
    c796813200 b814953600 c828867600 b846403200 c860317200 b877852800 c891766800 b909302400
    c923216400 b941356800 c954666000 b972806400 c986115600 b1004256000 c1018170000 b1035705600
    c1049619600 b1067155200 c1081069200 b1099209600 c1112518800 b1130659200 c1143968400
    b1162108800|2007 c3.8.6.32400 b11.1.6.28800"),
  ("America/Eirunepe",
    "-16768:LMT -18000:-05 -14400:-04|b-1767208832 c-1206950400 b-1191355200 c-1175367600
    b-1159819200 c-633812400 b-622062000 c-602276400 b-591825600 c-570740400 b-560203200
    c-539118000 b-531345600 c-191358000 b-184190400 c-155156400 b-150062400 c-128890800
    b-121118400 c-99946800 b-89582400 c-68410800 b-57960000 c499755600 b511243200 c530600400
    b540273600 c562136400 b571204800 c750834000 b761716800 c1214283600 b1384056000|"),
  ("America/El_Salvador",
    "-21408:LMT -21600:CST -18000:CDT|b-1546279392 c547020000 b559717200 c578469600 b591166800|"),
  ("America/Fort_Nelson",
    "-29447:LMT -28800:PST -25200:PDT -25200:PWT -25200:PPT -25200:MST|b-2713880953 c-1632060000
    b-1615129200 d-880207200 e-769395600 b-765385200 c-715788000 b-702486000 c-684338400
    b-671036400 c-652888800 b-639586800 c-620834400 b-608137200 c-589384800 b-576082800
    c-557935200 b-544633200 c-526485600 b-513183600 c-495036000 b-481734000 c-463586400
    b-450284400 c-431532000 b-418230000 c-400082400 b-386780400 c-368632800 b-355330800
    c-337183200 b-323881200 c-305733600 b-292431600 c-273679200 b-260982000 c-242229600
    b-226508400 c-210780000 b-195058800 c-179330400 b-163609200 c-147880800 b-131554800
    c-116431200 b-100105200 c-84376800 b-68655600 c-52927200 b-37206000 c-21477600 b-5756400
    c9972000 b25693200 c41421600 b57747600 c73476000 b89197200 c104925600 b120646800 c136375200
    b152096400 c167824800 b183546000 c199274400 b215600400 c230724000 b247050000 c262778400
    b278499600 c294228000 b309949200 c325677600 b341398800 c357127200 b372848400 c388576800
    b404902800 c420026400 b436352400 c452080800 b467802000 c483530400 b499251600 c514980000
    b530701200 c544615200 b562150800 c576064800 b594205200 c607514400 b625654800 c638964000
    b657104400 c671018400 b688554000 c702468000 b720003600 c733917600 b752058000 c765367200
    b783507600 c796816800 b814957200 c828871200 b846406800 c860320800 b877856400 c891770400
    b909306000 c923220000 b941360400 c954669600 b972810000 c986119200 b1004259600 c1018173600
    b1035709200 c1049623200 b1067158800 c1081072800 b1099213200 c1112522400 b1130662800
    c1143972000 b1162112400 c1173607200 b1194166800 c1205056800 b1225616400 c1236506400
    b1257066000 c1268560800 b1289120400 c1300010400 b1320570000 c1331460000 b1352019600
    c1362909600 b1383469200 c1394359200 b1414918800 f1425808800|"),
  ("America/Fortaleza",
    "-9240:LMT -10800:-03 -7200:-02|b-1767216360 c-1206957600 b-1191362400 c-1175374800
    b-1159826400 c-633819600 b-622069200 c-602283600 b-591832800 c-570747600 b-560210400
    c-539125200 b-531352800 c-191365200 b-184197600 c-155163600 b-150069600 c-128898000
    b-121125600 c-99954000 b-89589600 c-68418000 b-57967200 c499748400 b511236000 c530593200
    b540266400 c562129200 b571197600 c592974000 b602042400 c624423600 b634701600 c938919600
    b951616800 c970974000 b972180000 c1003028400 b1013911200|"),
  ("America/Glace_Bay",
    "-14388:LMT -14400:AST -10800:ADT -10800:AWT -10800:APT|b-2131646412 c-1632074400
    b-1615143600 d-880221600 e-769395600 b-765399600 c-526500000 b-513198000 c73461600
    b89182800 c104911200 b120632400 c136360800 b152082000 c167810400 b183531600 c199260000
    b215586000 c230709600 b247035600 c262764000 b278485200 c294213600 b309934800 c325663200
    b341384400 c357112800 b372834000 c388562400 b404888400 c420012000 b436338000 c452066400
    b467787600 c483516000 b499237200 c514965600 b530686800 c544600800 b562136400 c576050400
    b594190800 c607500000 b625640400 c638949600 b657090000 c671004000 b688539600 c702453600
    b719989200 c733903200 b752043600 c765352800 b783493200 c796802400 b814942800 c828856800
    b846392400 c860306400 b877842000 c891756000 b909291600 c923205600 b941346000 c954655200
    b972795600 c986104800 b1004245200 c1018159200 b1035694800 c1049608800 b1067144400
    c1081058400 b1099198800 c1112508000 b1130648400 c1143957600 b1162098000|2007 c3.8.6.21600
    b11.1.6.18000"),
  ("America/Goose_Bay",
    "-14500:LMT -12652:NST -9052:NDT -12600:NST -9000:NDT -9000:NWT -9000:NPT -14400:AST
    -10800:ADT -7200:ADDT|b-2713895900 c-1632076148 b-1615145348 d-1096921748 e-1061670600
    d-1048973400 e-1030221000 d-1017523800 e-998771400 d-986074200 e-966717000 d-954624600
    e-935267400 d-922570200 e-903817800 d-891120600 f-872368200 g-769395600 d-765401400
    e-746044200 d-733347000 e-714594600 d-701897400 e-683145000 d-670447800 e-651695400
    d-638998200 e-619641000 d-606943800 e-589401000 d-576099000 e-557951400 d-544649400
    e-526501800 d-513199800 e-495052200 d-481750200 e-463602600 d-450300600 e-431548200
    d-418246200 e-400098600 d-386796600 e-368649000 d-355347000 e-337199400 d-323897400
    e-305749800 d-289423800 e-273695400 d-257974200 e-242245800 d-226524600 e-210796200
    d-195075000 e-179346600 d-163625400 e-147897000 d-131571000 h-119903400 i-116445600
    h-100119600 i-84391200 h-68670000 i-52941600 h-37220400 i-21492000 h-5770800 i9957600
    h25678800 i41407200 h57733200 i73461600 h89182800 i104911200 h120632400 i136360800
    h152082000 i167810400 h183531600 i199260000 h215586000 i230709600 h247035600 i262764000
    h278485200 i294213600 h309934800 i325663200 h341384400 i357112800 h372834000 i388562400
    h404888400 i420012000 h436338000 i452066400 h467787600 i483516000 h499237200 i514965600
    h530686800 i544593660 h562129260 j576043260 h594180060 i607492860 h625633260 i638942460
    h657082860 i670996860 h688532460 i702446460 h719982060 i733896060 h752036460 i765345660
    h783486060 i796795260 h814935660 i828849660 h846385260 i860299260 h877834860 i891748860
    h909284460 i923198460 h941338860 i954648060 h972788460 i986097660 h1004238060 i1018152060
    h1035687660 i1049601660 h1067137260 i1081051260 h1099191660 i1112500860 h1130641260
    i1143950460 h1162090860 i1173585660 h1194145260 i1205035260 h1225594860 i1236484860
    h1257044460 i1268539260 h1289098860 i1299988860 h1320555600|2012 i3.8.6.21600 h11.1.6.18000"),
  ("America/Grand_Turk",
    "-17072:LMT -18430:KMT -18000:EST -14400:EDT -14400:AST|b-2524504528 c-1827687170 d294217200
    c309938400 d325666800 c341388000 d357116400 c372837600 d388566000 c404892000 d420015600
    c436341600 d452070000 c467791200 d483519600 c499240800 d514969200 c530690400 d544604400
    c562140000 d576054000 c594194400 d607503600 c625644000 d638953200 c657093600 d671007600
    c688543200 d702457200 c719992800 d733906800 c752047200 d765356400 c783496800 d796806000
    c814946400 d828860400 c846396000 d860310000 c877845600 d891759600 c909295200 d923209200
    c941349600 d954658800 c972799200 d986108400 c1004248800 d1018162800 c1035698400 d1049612400
    c1067148000 d1081062000 c1099202400 d1112511600 c1130652000 d1143961200 c1162101600
    d1173596400 c1194156000 d1205046000 c1225605600 d1236495600 c1257055200 d1268550000
    c1289109600 d1299999600 c1320559200 d1331449200 c1352008800 d1362898800 c1383458400
    d1394348400 c1414908000 e1425798000|2018 d3.8.6.25200 c11.1.6.21600"),
  ("America/Guatemala",
    "-21724:LMT -21600:CST -18000:CDT|b-1617040676 c123055200 b130914000 c422344800 b433054800
    c669708000 b684219600 c1146376800 b1159678800|"),
  ("America/Guayaquil",
    "-19160:LMT -18840:QMT -18000:-05 -14400:-04|b-2524502440 c-1230749160 d722926800 c728884800|"),
  ("America/Guyana",
    "-13959:LMT -14400:-04 -13500:-0345 -10800:-03|b-1843589241 c-1730577600 d176096700
    b701841600|"),
  ("America/Halifax",
    "-15264:LMT -14400:AST -10800:ADT -10800:AWT -10800:APT|b-2131645536 c-1696276800
    b-1680469200 c-1632074400 b-1615143600 c-1566763200 b-1557090000 c-1535486400 b-1524949200
    c-1504468800 b-1493413200 c-1472414400 b-1461963600 c-1440964800 b-1429390800 c-1409515200
    b-1396731600 c-1376856000 b-1366491600 c-1346616000 b-1333832400 c-1313956800 b-1303678800
    c-1282507200 b-1272661200 c-1251057600 b-1240088400 c-1219608000 b-1207429200 c-1188763200
    b-1175979600 c-1157313600 b-1143925200 c-1124049600 b-1113771600 c-1091390400 b-1081026000
    c-1059854400 b-1050786000 c-1030910400 b-1018126800 c-999460800 b-986677200 c-965592000
    b-955227600 c-935956800 b-923173200 c-904507200 b-891723600 d-880221600 e-769395600
    b-765399600 c-747252000 b-733950000 c-715802400 b-702500400 c-684352800 b-671050800
    c-652903200 b-639601200 c-589399200 b-576097200 c-557949600 b-544647600 c-526500000
    b-513198000 c-495050400 b-481748400 c-431546400 b-418244400 c-400096800 b-386794800
    c-368647200 b-355345200 c-337197600 b-323895600 c-242244000 b-226522800 c-210794400
    b-195073200 c-179344800 b-163623600 c-147895200 b-131569200 c-116445600 b-100119600
    c-84391200 b-68670000 c-52941600 b-37220400 c-21492000 b-5770800 c9957600 b25678800
    c41407200 b57733200 c73461600 b89182800 c104911200 b120632400 c136360800 b152082000
    c167810400 b183531600 c199260000 b215586000 c230709600 b247035600 c262764000 b278485200
    c294213600 b309934800 c325663200 b341384400 c357112800 b372834000 c388562400 b404888400
    c420012000 b436338000 c452066400 b467787600 c483516000 b499237200 c514965600 b530686800
    c544600800 b562136400 c576050400 b594190800 c607500000 b625640400 c638949600 b657090000
    c671004000 b688539600 c702453600 b719989200 c733903200 b752043600 c765352800 b783493200
    c796802400 b814942800 c828856800 b846392400 c860306400 b877842000 c891756000 b909291600
    c923205600 b941346000 c954655200 b972795600 c986104800 b1004245200 c1018159200 b1035694800
    c1049608800 b1067144400 c1081058400 b1099198800 c1112508000 b1130648400 c1143957600
    b1162098000|2007 c3.8.6.21600 b11.1.6.18000"),
  ("America/Havana",
    "-19768:LMT -19776:HMT -18000:CST -14400:CDT|b-2524501832 c-1402813824 d-1311534000
    c-1300996800 d-933534000 c-925675200 d-902084400 c-893620800 d-870030000 c-862171200
    d-775681200 c-767822400 d-744231600 c-736372800 d-144702000 c-134251200 d-113425200
    c-102542400 d-86295600 c-72907200 d-54154800 c-41457600 d-21495600 c-5774400 d9954000
    c25675200 d41403600 c57729600 d73458000 c87364800 d104907600 c118900800 d136357200
    c150436800 d167806800 c183528000 d199256400 c215582400 d230706000 c247032000 d263365200
    c276667200 d290581200 c308721600 d322030800 c340171200 d358318800 c371620800 d389768400
    c403070400 d421218000 c434520000 d452667600 c466574400 d484117200 c498024000 d511333200
    c529473600 d542782800 c560923200 d574837200 c592372800 d606286800 c623822400 d638946000
    c655876800 d671000400 c687330000 d702450000 c718779600 d733899600 c750229200 d765349200
    c781678800 d796798800 c813128400 d828853200 c844578000 d860302800 c876632400 d891147600
    c909291600 d922597200 c941346000 d954651600 c972795600 d986101200 c1004245200 d1018155600
    c1035694800 d1049605200 c1067144400 d1080450000 c1162098000 d1173589200 c1193547600
    d1205643600 c1224997200 d1236488400 c1256446800 d1268542800 c1288501200 d1300597200
    c1321160400 d1333256400 c1352005200|2013 d3.8.6.18000 c11.1.6.18000"),
  ("America/Hermosillo",
    "-26632:LMT -25200:MST -21600:CST -21600:MDT|b-1514739600 c-1343149200 b-1234807200
    d-1220461200 b-1207159200 c-1191344400 b-873828000 d828867600 b846403200 d860317200
    b877852800 d891766800 b909302400|"),
  ("America/Indiana/Indianapolis",
    "-20678:LMT -21600:CST -18000:CDT -18000:CWT -18000:CPT -18000:EST -14400:EDT|b-2717647200
    c-1633276800 b-1615136400 c-1601827200 b-1583686800 c-900259200 b-891795600 d-880214400
    e-769395600 b-765392400 c-747244800 b-733942800 c-715795200 b-702493200 c-684345600
    b-671043600 c-652896000 b-639594000 c-620841600 b-608144400 c-589392000 b-576090000
    c-557942400 b-544640400 c-526492800 b-513190800 c-495043200 b-481741200 f-463593600
    b-386787600 f-368640000 g-21488400 f-5767200 g9961200 f25682400 g1143961200
    f1162101600|2007 g3.8.6.25200 f11.1.6.21600"),
  ("America/Indiana/Knox",
    "-20790:LMT -21600:CST -18000:CDT -18000:CWT -18000:CPT -18000:EST|b-2717647200 c-1633276800
    b-1615136400 c-1601827200 b-1583686800 d-880214400 e-769395600 b-765392400 c-715795200
    b-702493200 c-684345600 b-671043600 c-652896000 b-639594000 c-620841600 b-608144400
    c-589392000 b-576090000 c-557942400 b-544640400 c-526492800 b-513190800 c-495043200
    b-481741200 c-463593600 b-447267600 c-431539200 b-415818000 c-400089600 b-386787600
    c-368640000 b-355338000 c-337190400 b-321469200 c-305740800 b-289414800 c-273686400
    b-257965200 f-242236800 b-195066000 c-84384000 b-68662800 c-52934400 b-37213200 c-21484800
    b-5763600 c9964800 b25686000 c41414400 b57740400 c73468800 b89190000 c104918400 b120639600
    c126691200 b152089200 c162374400 b183538800 c199267200 b215593200 c230716800 b247042800
    c262771200 b278492400 c294220800 b309942000 c325670400 b341391600 c357120000 b372841200
    c388569600 b404895600 c420019200 b436345200 c452073600 b467794800 c483523200 b499244400
    c514972800 b530694000 c544608000 b562143600 c576057600 b594198000 c607507200 b625647600
    c638956800 b657097200 c671011200 f688546800 c1143961200 b1162105200|2007 c3.8.6.28800
    b11.1.6.25200"),
  ("America/Indiana/Marengo",
    "-20723:LMT -21600:CST -18000:CDT -18000:CWT -18000:CPT -18000:EST -14400:EDT|b-2717647200
    c-1633276800 b-1615136400 c-1601827200 b-1583686800 d-880214400 e-769395600 b-765392400
    c-589392000 b-576090000 c-495043200 b-481741200 c-463593600 b-450291600 c-431539200
    b-418237200 c-400089600 b-386787600 c-368640000 b-355338000 c-337190400 b-323888400
    c-305740800 b-292438800 f-273686400 g-21488400 f-5767200 g9961200 f25682400 g41410800
    f57736800 g73465200 f89186400 g104914800 f120636000 c126687600 f152089200 g162370800
    f183535200 g1143961200 f1162101600|2007 g3.8.6.25200 f11.1.6.21600"),
  ("America/Indiana/Petersburg",
    "-20947:LMT -21600:CST -18000:CDT -18000:CWT -18000:CPT -18000:EST -14400:EDT|b-2717647200
    c-1633276800 b-1615136400 c-1601827200 b-1583686800 d-880214400 e-769395600 b-765392400
    c-462996000 b-450291600 c-431539200 b-418237200 c-400089600 b-386787600 c-368640000
    b-355338000 c-337190400 b-323888400 c-305740800 b-292438800 c-273686400 b-257965200
    c-242236800 b-226515600 c-210787200 b-195066000 c-179337600 b-163616400 f-147888000
    b-100112400 c-84384000 b-68662800 c-52934400 b-37213200 c-21484800 b-5763600 c9964800
    b25686000 c41414400 b57740400 c73468800 b89190000 c104918400 b120639600 c126691200
    b152089200 c162374400 b183538800 c199267200 b215593200 c230716800 f247042800 c1143961200
    b1162105200 c1173600000 f1194159600|2008 g3.8.6.25200 f11.1.6.21600"),
  ("America/Indiana/Tell_City",
    "-20823:LMT -21600:CST -18000:CDT -18000:CWT -18000:CPT -18000:EST -14400:EDT|b-2717647200
    c-1633276800 b-1615136400 c-1601827200 b-1583686800 d-880214400 e-769395600 b-765392400
    c-462996000 b-450291600 c-431539200 b-418237200 c-400089600 b-386787600 c-368640000
    b-355338000 c-337190400 b-323888400 c-305740800 b-292438800 c-273686400 b-257965200
    c-242236800 b-226515600 c-210787200 b-195066000 f-179337600 b-68662800 c-52934400
    b-37213200 g-21484800 f-5767200 g9961200 f25682400 c1143961200 b1162105200|2007
    c3.8.6.28800 b11.1.6.25200"),
  ("America/Indiana/Vevay",
    "-20416:LMT -21600:CST -18000:CDT -18000:CWT -18000:CPT -18000:EST -14400:EDT|b-2717647200
    c-1633276800 b-1615136400 c-1601827200 b-1583686800 d-880214400 e-769395600 b-765392400
    f-495043200 g-21488400 f-5767200 g9961200 f25682400 g41410800 f57736800 g73465200 f89186400
    g1143961200 f1162101600|2007 g3.8.6.25200 f11.1.6.21600"),
  ("America/Indiana/Vincennes",
    "-21007:LMT -21600:CST -18000:CDT -18000:CWT -18000:CPT -18000:EST -14400:EDT|b-2717647200
    c-1633276800 b-1615136400 c-1601827200 b-1583686800 d-880214400 e-769395600 b-765392400
    c-747244800 b-733942800 c-526492800 b-513190800 c-495043200 b-481741200 c-462996000
    b-450291600 c-431539200 b-418237200 c-400089600 b-386787600 c-368640000 b-355338000
    c-337190400 b-323888400 c-305740800 b-289414800 c-273686400 b-260989200 c-242236800
    b-226515600 c-210787200 b-195066000 f-179337600 g-21488400 f-5767200 g9961200 f25682400
    c1143961200 b1162105200 c1173600000 f1194159600|2008 g3.8.6.25200 f11.1.6.21600"),
  ("America/Indiana/Winamac",
    "-20785:LMT -21600:CST -18000:CDT -18000:CWT -18000:CPT -18000:EST -14400:EDT|b-2717647200
    c-1633276800 b-1615136400 c-1601827200 b-1583686800 d-880214400 e-769395600 b-765392400
    c-747244800 b-733942800 c-715795200 b-702493200 c-684345600 b-671043600 c-652896000
    b-639594000 c-620841600 b-608144400 c-589392000 b-576090000 c-557942400 b-544640400
    c-526492800 b-513190800 c-495043200 b-481741200 c-463593600 b-447267600 c-431539200
    b-415818000 c-400089600 b-386787600 c-368640000 b-355338000 c-337190400 b-323888400
    c-305740800 b-292438800 f-273686400 g-21488400 f-5767200 g9961200 f25682400 c1143961200
    b1162105200 g1173600000 f1194156000|2008 g3.8.6.25200 f11.1.6.21600"),
  ("America/Inuvik",
    "0:-00 -28800:PST -25200:PDT -21600:MDT -25200:MST|b-536457600 c73476000 b89197200
    c104925600 b120646800 c136375200 b152096400 c167824800 b183546000 c199274400 b215600400
    c230724000 b247050000 c262778400 b278499600 d294228000 e309945600 d325674000 e341395200
    d357123600 e372844800 d388573200 e404899200 d420022800 e436348800 d452077200 e467798400
    d483526800 e499248000 d514976400 e530697600 d544611600 e562147200 d576061200 e594201600
    d607510800 e625651200 d638960400 e657100800 d671014800 e688550400 d702464400 e720000000
    d733914000 e752054400 d765363600 e783504000 d796813200 e814953600 d828867600 e846403200
    d860317200 e877852800 d891766800 e909302400 d923216400 e941356800 d954666000 e972806400
    d986115600 e1004256000 d1018170000 e1035705600 d1049619600 e1067155200 d1081069200
    e1099209600 d1112518800 e1130659200 d1143968400 e1162108800|2007 d3.8.6.32400 e11.1.6.28800"),
  ("America/Iqaluit",
    "0:-00 -14400:EWT -14400:EPT -18000:EST -14400:EDT -21600:CST -18000:CDT|b-865296000
    c-769395600 d-765396000 e73465200 d89186400 e104914800 d120636000 e136364400 d152085600
    e167814000 d183535200 e199263600 d215589600 e230713200 d247039200 e262767600 d278488800
    e294217200 d309938400 e325666800 d341388000 e357116400 d372837600 e388566000 d404892000
    e420015600 d436341600 e452070000 d467791200 e483519600 d499240800 e514969200 d530690400
    e544604400 d562140000 e576054000 d594194400 e607503600 d625644000 e638953200 d657093600
    e671007600 d688543200 e702457200 d719992800 e733906800 d752047200 e765356400 d783496800
    e796806000 d814946400 e828860400 d846396000 e860310000 d877845600 e891759600 d909295200
    e923209200 f941349600 g954662400 d972802800 e986108400 d1004248800 e1018162800 d1035698400
    e1049612400 d1067148000 e1081062000 d1099202400 e1112511600 d1130652000 e1143961200
    d1162101600|2007 e3.8.6.25200 d11.1.6.21600"),
  ("America/Jamaica",
    "-18430:LMT -18430:KMT -18000:EST -14400:EDT|b-2524503170 c-1827687170 d126687600 c152085600
    d162370800 c183535200 d199263600 c215589600 d230713200 c247039200 d262767600 c278488800
    d294217200 c309938400 d325666800 c341388000 d357116400 c372837600 d388566000 c404892000
    d420015600 c436341600|"),
  ("America/Juneau",
    "54139:LMT -32261:LMT -28800:PST -25200:PWT -25200:PPT -25200:PDT -28800:YDT -32400:YST
    -32400:AKST -28800:AKDT|b-3225223727 c-2188954939 d-880207200 e-769395600 c-765385200
    f-21477600 c-5756400 f9972000 c25693200 f41421600 c57747600 f73476000 c89197200 f104925600
    c120646800 f126698400 c152096400 f162381600 c183546000 f199274400 c215600400 f230724000
    c247050000 f262778400 c278499600 f294228000 c309949200 g325677600 c341402400 f357127200
    c372848400 f388576800 c404902800 f420026400 h436352400 i439030800 j452084400 i467805600
    j483534000 i499255200 j514983600 i530704800 j544618800 i562154400 j576068400 i594208800
    j607518000 i625658400 j638967600 i657108000 j671022000 i688557600 j702471600 i720007200
    j733921200 i752061600 j765370800 i783511200 j796820400 i814960800 j828874800 i846410400
    j860324400 i877860000 j891774000 i909309600 j923223600 i941364000 j954673200 i972813600
    j986122800 i1004263200 j1018177200 i1035712800 j1049626800 i1067162400 j1081076400
    i1099216800 j1112526000 i1130666400 j1143975600 i1162116000|2007 j3.8.6.39600 i11.1.6.36000"),
  ("America/Kentucky/Louisville",
    "-20582:LMT -21600:CST -18000:CDT -18000:CWT -18000:CPT -18000:EST -14400:EDT|b-2717647200
    c-1633276800 b-1615136400 c-1601827200 b-1583686800 c-1535904000 b-1525280400 c-905097600
    b-891795600 d-880214400 e-769395600 b-765392400 c-747251940 b-744224400 c-620841600
    b-608144400 c-589392000 b-576090000 c-557942400 b-544640400 c-526492800 b-513190800
    c-495043200 b-481741200 c-463593600 b-450291600 c-431539200 b-415818000 c-400089600
    b-384368400 c-368640000 b-352918800 c-337190400 b-321469200 c-305740800 b-289414800
    c-273686400 f-266432400 g-52938000 f-37216800 g-21488400 f-5767200 g9961200 f25682400
    g41410800 f57736800 g73465200 f89186400 g104914800 f120636000 c126687600 f152089200
    g162370800 f183535200 g199263600 f215589600 g230713200 f247039200 g262767600 f278488800
    g294217200 f309938400 g325666800 f341388000 g357116400 f372837600 g388566000 f404892000
    g420015600 f436341600 g452070000 f467791200 g483519600 f499240800 g514969200 f530690400
    g544604400 f562140000 g576054000 f594194400 g607503600 f625644000 g638953200 f657093600
    g671007600 f688543200 g702457200 f719992800 g733906800 f752047200 g765356400 f783496800
    g796806000 f814946400 g828860400 f846396000 g860310000 f877845600 g891759600 f909295200
    g923209200 f941349600 g954658800 f972799200 g986108400 f1004248800 g1018162800 f1035698400
    g1049612400 f1067148000 g1081062000 f1099202400 g1112511600 f1130652000 g1143961200
    f1162101600|2007 g3.8.6.25200 f11.1.6.21600"),
  ("America/Kentucky/Monticello",
    "-20364:LMT -21600:CST -18000:CDT -18000:CWT -18000:CPT -18000:EST -14400:EDT|b-2717647200
    c-1633276800 b-1615136400 c-1601827200 b-1583686800 d-880214400 e-769395600 b-765392400
    c-52934400 b-37213200 c-21484800 b-5763600 c9964800 b25686000 c41414400 b57740400 c73468800
    b89190000 c104918400 b120639600 c126691200 b152089200 c162374400 b183538800 c199267200
    b215593200 c230716800 b247042800 c262771200 b278492400 c294220800 b309942000 c325670400
    b341391600 c357120000 b372841200 c388569600 b404895600 c420019200 b436345200 c452073600
    b467794800 c483523200 b499244400 c514972800 b530694000 c544608000 b562143600 c576057600
    b594198000 c607507200 b625647600 c638956800 b657097200 c671011200 b688546800 c702460800
    b719996400 c733910400 b752050800 c765360000 b783500400 c796809600 b814950000 c828864000
    b846399600 c860313600 b877849200 c891763200 b909298800 c923212800 b941353200 c954662400
    f972802800 g986108400 f1004248800 g1018162800 f1035698400 g1049612400 f1067148000
    g1081062000 f1099202400 g1112511600 f1130652000 g1143961200 f1162101600|2007 g3.8.6.25200
    f11.1.6.21600"),
  ("America/La_Paz",
    "-16356:LMT -16356:CMT -12756:BST -14400:-04|b-2524505244 c-1205954844 d-1192307244|"),
  ("America/Lima",
    "-18492:LMT -18516:LMT -18000:-05 -14400:-04|b-2524503108 c-1938538284 d-1009825200
    c-1002052800 d-986756400 c-971035200 d-955306800 c-939585600 d504939600 c512712000
    d536475600 c544248000 d631170000 c638942400 d757400400 c765172800|"),
  ("America/Los_Angeles",
    "-28378:LMT -28800:PST -25200:PDT -25200:PWT -25200:PPT|b-2717640000 c-1633269600
    b-1615129200 c-1601820000 b-1583679600 d-880207200 e-769395600 b-765385200 c-687967140
    b-662655600 c-620838000 b-608137200 c-589388400 b-576082800 c-557938800 b-544633200
    c-526489200 b-513183600 c-495039600 b-481734000 c-463590000 b-450284400 c-431535600
    b-418230000 c-400086000 b-386780400 c-368636400 b-355330800 c-337186800 b-323881200
    c-305737200 b-292431600 c-273682800 b-260982000 c-242233200 b-226508400 c-210783600
    b-195058800 c-179334000 b-163609200 c-147884400 b-131554800 c-116434800 b-100105200
    c-84376800 b-68655600 c-52927200 b-37206000 c-21477600 b-5756400 c9972000 b25693200
    c41421600 b57747600 c73476000 b89197200 c104925600 b120646800 c126698400 b152096400
    c162381600 b183546000 c199274400 b215600400 c230724000 b247050000 c262778400 b278499600
    c294228000 b309949200 c325677600 b341398800 c357127200 b372848400 c388576800 b404902800
    c420026400 b436352400 c452080800 b467802000 c483530400 b499251600 c514980000 b530701200
    c544615200 b562150800 c576064800 b594205200 c607514400 b625654800 c638964000 b657104400
    c671018400 b688554000 c702468000 b720003600 c733917600 b752058000 c765367200 b783507600
    c796816800 b814957200 c828871200 b846406800 c860320800 b877856400 c891770400 b909306000
    c923220000 b941360400 c954669600 b972810000 c986119200 b1004259600 c1018173600 b1035709200
    c1049623200 b1067158800 c1081072800 b1099213200 c1112522400 b1130662800 c1143972000
    b1162112400|2007 c3.8.6.36000 b11.1.6.32400"),
  ("America/Maceio",
    "-8572:LMT -10800:-03 -7200:-02|b-1767217028 c-1206957600 b-1191362400 c-1175374800
    b-1159826400 c-633819600 b-622069200 c-602283600 b-591832800 c-570747600 b-560210400
    c-539125200 b-531352800 c-191365200 b-184197600 c-155163600 b-150069600 c-128898000
    b-121125600 c-99954000 b-89589600 c-68418000 b-57967200 c499748400 b511236000 c530593200
    b540266400 c562129200 b571197600 c592974000 b602042400 c624423600 b634701600 c813726000
    b824004000 c938919600 b951616800 c970974000 b972180000 c1003028400 b1013911200|"),
  ("America/Managua",
    "-20708:LMT -20712:MMT -21600:CST -18000:EST -18000:CDT|b-2524500892 c-1121105688 d105084000
    c161758800 e290584800 c299134800 e322034400 c330584400 d694260000 c717310800 d725868000
    c852094800 e1113112800 c1128229200 e1146384000 c1159682400|"),
  ("America/Manaus",
    "-14404:LMT -14400:-04 -10800:-03|b-1767211196 c-1206954000 b-1191358800 c-1175371200
    b-1159822800 c-633816000 b-622065600 c-602280000 b-591829200 c-570744000 b-560206800
    c-539121600 b-531349200 c-191361600 b-184194000 c-155160000 b-150066000 c-128894400
    b-121122000 c-99950400 b-89586000 c-68414400 b-57963600 c499752000 b511239600 c530596800
    b540270000 c562132800 b571201200 c750830400 b761713200|"),
  ("America/Martinique",
    "-14660:LMT -14660:FFMT -14400:AST -10800:ADT|b-2524506940 c-1851537340 d323841600
    c338958000|"),
  ("America/Matamoros",
    "-23400:LMT -21600:CST -18000:CDT|b-1514743200 c576057600 b594198000 c828864000 b846399600
    c860313600 b877849200 c891763200 b909298800 c923212800 b941353200 c954662400 b972802800
    c989136000 b1001833200 c1018166400 b1035702000 c1049616000 b1067151600 c1081065600
    b1099206000 c1112515200 b1130655600 c1143964800 b1162105200 c1175414400 b1193554800
    c1207468800 b1225004400 c1238918400 b1256454000|2010 c3.8.6.28800 b11.1.6.25200"),
  ("America/Mazatlan",
    "-25540:LMT -25200:MST -21600:CST -21600:MDT|b-1514739600 c-1343149200 b-1234807200
    d-1220461200 b-1207159200 c-1191344400 b-873828000 d828867600 b846403200 d860317200
    b877852800 d891766800 b909302400 d923216400 b941356800 d954666000 b972806400 d989139600
    b1001836800 d1018170000 b1035705600 d1049619600 b1067155200 d1081069200 b1099209600
    d1112518800 b1130659200 d1143968400 b1162108800 d1175418000 b1193558400 d1207472400
    b1225008000 d1238922000 b1256457600 d1270371600 b1288512000 d1301821200 b1319961600
    d1333270800 b1351411200 d1365325200 b1382860800 d1396774800 b1414310400 d1428224400
    b1445760000 d1459674000 b1477814400 d1491123600 b1509264000 d1522573200 b1540713600
    d1554627600 b1572163200 d1586077200 b1603612800 d1617526800 b1635667200 d1648976400
    b1667116800|"),
  ("America/Menominee",
    "-21027:LMT -21600:CST -18000:CDT -18000:CWT -18000:CPT -18000:EST|b-2659759773 c-1633276800
    b-1615136400 c-1601827200 b-1583686800 d-880214400 e-769395600 b-765392400 c-747244800
    b-733942800 c-116438400 b-100112400 f-21484800 c104914800 b120639600 c126691200 b152089200
    c162374400 b183538800 c199267200 b215593200 c230716800 b247042800 c262771200 b278492400
    c294220800 b309942000 c325670400 b341391600 c357120000 b372841200 c388569600 b404895600
    c420019200 b436345200 c452073600 b467794800 c483523200 b499244400 c514972800 b530694000
    c544608000 b562143600 c576057600 b594198000 c607507200 b625647600 c638956800 b657097200
    c671011200 b688546800 c702460800 b719996400 c733910400 b752050800 c765360000 b783500400
    c796809600 b814950000 c828864000 b846399600 c860313600 b877849200 c891763200 b909298800
    c923212800 b941353200 c954662400 b972802800 c986112000 b1004252400 c1018166400 b1035702000
    c1049616000 b1067151600 c1081065600 b1099206000 c1112515200 b1130655600 c1143964800
    b1162105200|2007 c3.8.6.28800 b11.1.6.25200"),
  ("America/Merida",
    "-21508:LMT -21600:CST -18000:EST -18000:CDT|b-1514743200 c378201600 b405068400 d828864000
    b846399600 d860313600 b877849200 d891763200 b909298800 d923212800 b941353200 d954662400
    b972802800 d989136000 b1001833200 d1018166400 b1035702000 d1049616000 b1067151600
    d1081065600 b1099206000 d1112515200 b1130655600 d1143964800 b1162105200 d1175414400
    b1193554800 d1207468800 b1225004400 d1238918400 b1256454000 d1270368000 b1288508400
    d1301817600 b1319958000 d1333267200 b1351407600 d1365321600 b1382857200 d1396771200
    b1414306800 d1428220800 b1445756400 d1459670400 b1477810800 d1491120000 b1509260400
    d1522569600 b1540710000 d1554624000 b1572159600 d1586073600 b1603609200 d1617523200
    b1635663600 d1648972800 b1667113200|"),
  ("America/Metlakatla",
    "54822:LMT -31578:LMT -28800:PST -25200:PWT -25200:PPT -25200:PDT -32400:AKST
    -28800:AKDT|b-3225223727 c-2188955622 d-880207200 e-769395600 c-765385200 f-21477600
    c-5756400 f9972000 c25693200 f41421600 c57747600 f73476000 c89197200 f104925600 c120646800
    f126698400 c152096400 f162381600 c183546000 f199274400 c215600400 f230724000 c247050000
    f262778400 c278499600 f294228000 c309949200 f325677600 c341398800 f357127200 c372848400
    f388576800 c404902800 f420026400 c436352400 g1446372000 h1457866800 g1478426400 h1489316400
    g1509876000 h1520766000 c1541325600 g1547978400|2019 h3.8.6.39600 g11.1.6.36000"),
  ("America/Mexico_City",
    "-23796:LMT -25200:MST -21600:CST -21600:MDT -18000:CDT -18000:CWT|b-1514739600 c-1343149200
    b-1234807200 d-1220461200 b-1207159200 c-1191344400 e-975261600 c-963169200 e-917114400
    c-907354800 f-821901600 c-810068400 e-627501600 c-612990000 e828864000 c846399600
    e860313600 c877849200 e891763200 c909298800 e923212800 c941353200 e954662400 c972802800
    e989136000 c1001833200 e1018166400 c1035702000 e1049616000 c1067151600 e1081065600
    c1099206000 e1112515200 c1130655600 e1143964800 c1162105200 e1175414400 c1193554800
    e1207468800 c1225004400 e1238918400 c1256454000 e1270368000 c1288508400 e1301817600
    c1319958000 e1333267200 c1351407600 e1365321600 c1382857200 e1396771200 c1414306800
    e1428220800 c1445756400 e1459670400 c1477810800 e1491120000 c1509260400 e1522569600
    c1540710000 e1554624000 c1572159600 e1586073600 c1603609200 e1617523200 c1635663600
    e1648972800 c1667113200|"),
  ("America/Miquelon",
    "-13480:LMT -14400:AST -10800:-03 -7200:-02|b-1847650520 c326001600 d544597200 c562132800
    d576046800 c594187200 d607496400 c625636800 d638946000 c657086400 d671000400 c688536000
    d702450000 c719985600 d733899600 c752040000 d765349200 c783489600 d796798800 c814939200
    d828853200 c846388800 d860302800 c877838400 d891752400 c909288000 d923202000 c941342400
    d954651600 c972792000 d986101200 c1004241600 d1018155600 c1035691200 d1049605200
    c1067140800 d1081054800 c1099195200 d1112504400 c1130644800 d1143954000 c1162094400|2007
    d3.8.6.18000 c11.1.6.14400"),
  ("America/Moncton",
    "-15548:LMT -18000:EST -14400:AST -10800:ADT -10800:AWT -10800:APT|b-2715882052 c-2131642800
    d-1632074400 c-1615143600 d-1153681200 c-1145822400 d-1122231600 c-1114372800 d-1090782000
    c-1082923200 d-1059332400 c-1051473600 d-1027882800 c-1020024000 d-996433200 c-988574400
    d-965674800 c-955396800 d-934743600 c-923947200 d-904503600 c-891892800 e-880221600
    f-769395600 c-765399600 d-747252000 c-733950000 d-715802400 c-702500400 d-684352800
    c-671050800 d-652903200 c-639601200 d-620848800 c-608151600 d-589399200 c-576097200
    d-557949600 c-544647600 d-526500000 c-513198000 d-495050400 c-481748400 d-463600800
    c-450298800 d-431546400 c-418244400 d-400096800 c-384375600 d-368647200 c-352926000
    d-337197600 c-321476400 d-305748000 c-289422000 d-273693600 c-257972400 d-242244000
    c-226522800 d-210794400 c-195073200 d-179344800 c-163623600 d-147895200 c-131569200
    d-116445600 c-100119600 d-84391200 c-68670000 d-52941600 c-37220400 d-21492000 c-5770800
    d9957600 c25678800 d41407200 c57733200 d73461600 c89182800 d136360800 c152082000 d167810400
    c183531600 d199260000 c215586000 d230709600 c247035600 d262764000 c278485200 d294213600
    c309934800 d325663200 c341384400 d357112800 c372834000 d388562400 c404888400 d420012000
    c436338000 d452066400 c467787600 d483516000 c499237200 d514965600 c530686800 d544600800
    c562136400 d576050400 c594190800 d607500000 c625640400 d638949600 c657090000 d671004000
    c688539600 d702453600 c719989200 d733896060 c752036460 d765345660 c783486060 d796795260
    c814935660 d828849660 c846385260 d860299260 c877834860 d891748860 c909284460 d923198460
    c941338860 d954648060 c972788460 d986097660 c1004238060 d1018152060 c1035687660 d1049601660
    c1067137260 d1081051260 c1099191660 d1112500860 c1130641260 d1143950460 c1162090860|2007
    d3.8.6.21600 c11.1.6.18000"),
  ("America/Monterrey",
    "-24076:LMT -25200:MST -21600:CST -21600:MDT -18000:CDT|b-1514743200 c-1343149200
    b-1234807200 d-1220461200 b-1207159200 c-1191344400 e576057600 c594198000 e828864000
    c846399600 e860313600 c877849200 e891763200 c909298800 e923212800 c941353200 e954662400
    c972802800 e989136000 c1001833200 e1018166400 c1035702000 e1049616000 c1067151600
    e1081065600 c1099206000 e1112515200 c1130655600 e1143964800 c1162105200 e1175414400
    c1193554800 e1207468800 c1225004400 e1238918400 c1256454000 e1270368000 c1288508400
    e1301817600 c1319958000 e1333267200 c1351407600 e1365321600 c1382857200 e1396771200
    c1414306800 e1428220800 c1445756400 e1459670400 c1477810800 e1491120000 c1509260400
    e1522569600 c1540710000 e1554624000 c1572159600 e1586073600 c1603609200 e1617523200
    c1635663600 e1648972800 c1667113200|"),
  ("America/Montevideo",
    "-13491:LMT -13491:MMT -14400:-04 -10800:-03 -12600:-0330 -9000:-0230 -7200:-02
    -5400:-0130|b-1942690509 c-1567455309 d-1459627200 e-1443819600 d-1428006600 e-1412283600
    d-1396470600 e-1380747600 d-1141590600 e-1128286800 d-1110141000 e-1096837200 d-1078691400
    e-1065387600 d-1047241800 e-1033938000 d-1015187400 e-1002488400 d-983737800 e-971038800
    d-954707400 e-938984400 d-920838600 e-907534800 d-896819400 f-853621200 d-845847000
    f-334789200 d-319671000 g-314226000 d-309996000 g-149720400 d-134604000 f-50446800
    d-34205400 g9860400 d14176800 g72846000 d80100000 h127278000 f132111000 d147234600
    g156913200 d165376800 g219812400 d226461600 g250052400 d257911200 g282711600 d289360800
    g294202800 d322020000 g566449200 d573012000 g597812400 d605066400 g625633200 d635911200
    g656478000 d667965600 g688532400 d699415200 g719377200 d730864800 g1095562800 d1111896000
    g1128834000 d1142136000 g1159678800 d1173585600 g1191733200 d1205035200 g1223182800
    d1236484800 g1254632400 d1268539200 g1286082000 d1299988800 g1317531600 d1331438400
    g1349586000 d1362888000 g1381035600 d1394337600 g1412485200 d1425787200|"),
  ("America/New_York",
    "-17762:LMT -18000:EST -14400:EDT -14400:EWT -14400:EPT|b-2717650800 c-1633280400
    b-1615140000 c-1601830800 b-1583690400 c-1570381200 b-1551636000 c-1536512400 b-1523210400
    c-1504458000 b-1491760800 c-1473008400 b-1459706400 c-1441558800 b-1428256800 c-1410109200
    b-1396807200 c-1378659600 b-1365357600 c-1347210000 b-1333908000 c-1315155600 b-1301853600
    c-1283706000 b-1270404000 c-1252256400 b-1238954400 c-1220806800 b-1207504800 c-1189357200
    b-1176055200 c-1157302800 b-1144605600 c-1125853200 b-1112551200 c-1094403600 b-1081101600
    c-1062954000 b-1049652000 c-1031504400 b-1018202400 c-1000054800 b-986752800 c-968000400
    b-955303200 c-936550800 b-923248800 c-905101200 b-891799200 d-880218000 e-769395600
    b-765396000 c-747248400 b-733946400 c-715798800 b-702496800 c-684349200 b-671047200
    c-652899600 b-639597600 c-620845200 b-608148000 c-589395600 b-576093600 c-557946000
    b-544644000 c-526496400 b-513194400 c-495046800 b-481744800 c-463597200 b-447271200
    c-431542800 b-415821600 c-400093200 b-384372000 c-368643600 b-352922400 c-337194000
    b-321472800 c-305744400 b-289418400 c-273690000 b-257968800 c-242240400 b-226519200
    c-210790800 b-195069600 c-179341200 b-163620000 c-147891600 b-131565600 c-116442000
    b-100116000 c-84387600 b-68666400 c-52938000 b-37216800 c-21488400 b-5767200 c9961200
    b25682400 c41410800 b57736800 c73465200 b89186400 c104914800 b120636000 c126687600
    b152085600 c162370800 b183535200 c199263600 b215589600 c230713200 b247039200 c262767600
    b278488800 c294217200 b309938400 c325666800 b341388000 c357116400 b372837600 c388566000
    b404892000 c420015600 b436341600 c452070000 b467791200 c483519600 b499240800 c514969200
    b530690400 c544604400 b562140000 c576054000 b594194400 c607503600 b625644000 c638953200
    b657093600 c671007600 b688543200 c702457200 b719992800 c733906800 b752047200 c765356400
    b783496800 c796806000 b814946400 c828860400 b846396000 c860310000 b877845600 c891759600
    b909295200 c923209200 b941349600 c954658800 b972799200 c986108400 b1004248800 c1018162800
    b1035698400 c1049612400 b1067148000 c1081062000 b1099202400 c1112511600 b1130652000
    c1143961200 b1162101600|2007 c3.8.6.25200 b11.1.6.21600"),
  ("America/Nome",
    "46702:LMT -39698:LMT -39600:NST -36000:NWT -36000:NPT -39600:BST -36000:BDT -32400:YST
    -32400:AKST -28800:AKDT|b-3225223727 c-2188947502 d-880196400 e-769395600 c-765374400
    f-86878800 g-21466800 f-5745600 g9982800 f25704000 g41432400 f57758400 g73486800 f89208000
    g104936400 f120657600 g126709200 f152107200 g162392400 f183556800 g199285200 f215611200
    g230734800 f247060800 g262789200 f278510400 g294238800 f309960000 g325688400 f341409600
    g357138000 f372859200 g388587600 f404913600 g420037200 h436363200 i439030800 j452084400
    i467805600 j483534000 i499255200 j514983600 i530704800 j544618800 i562154400 j576068400
    i594208800 j607518000 i625658400 j638967600 i657108000 j671022000 i688557600 j702471600
    i720007200 j733921200 i752061600 j765370800 i783511200 j796820400 i814960800 j828874800
    i846410400 j860324400 i877860000 j891774000 i909309600 j923223600 i941364000 j954673200
    i972813600 j986122800 i1004263200 j1018177200 i1035712800 j1049626800 i1067162400
    j1081076400 i1099216800 j1112526000 i1130666400 j1143975600 i1162116000|2007 j3.8.6.39600
    i11.1.6.36000"),
  ("America/Noronha",
    "-7780:LMT -7200:-02 -3600:-01|b-1767217820 c-1206961200 b-1191366000 c-1175378400
    b-1159830000 c-633823200 b-622072800 c-602287200 b-591836400 c-570751200 b-560214000
    c-539128800 b-531356400 c-191368800 b-184201200 c-155167200 b-150073200 c-128901600
    b-121129200 c-99957600 b-89593200 c-68421600 b-57970800 c499744800 b511232400 c530589600
    b540262800 c562125600 b571194000 c592970400 b602038800 c624420000 b634698000 c938916000
    b951613200 c970970400 b971571600 c1003024800 b1013907600|"),
  ("America/North_Dakota/Beulah",
    "-24427:LMT -25200:MST -21600:MDT -21600:MWT -21600:MPT -21600:CST -18000:CDT|b-2717643600
    c-1633273200 b-1615132800 c-1601823600 b-1583683200 d-880210800 e-769395600 b-765388800
    c-84380400 b-68659200 c-52930800 b-37209600 c-21481200 b-5760000 c9968400 b25689600
    c41418000 b57744000 c73472400 b89193600 c104922000 b120643200 c126694800 b152092800
    c162378000 b183542400 c199270800 b215596800 c230720400 b247046400 c262774800 b278496000
    c294224400 b309945600 c325674000 b341395200 c357123600 b372844800 c388573200 b404899200
    c420022800 b436348800 c452077200 b467798400 c483526800 b499248000 c514976400 b530697600
    c544611600 b562147200 c576061200 b594201600 c607510800 b625651200 c638960400 b657100800
    c671014800 b688550400 c702464400 b720000000 c733914000 b752054400 c765363600 b783504000
    c796813200 b814953600 c828867600 b846403200 c860317200 b877852800 c891766800 b909302400
    c923216400 b941356800 c954666000 b972806400 c986115600 b1004256000 c1018170000 b1035705600
    c1049619600 b1067155200 c1081069200 b1099209600 c1112518800 b1130659200 c1143968400
    b1162108800 c1173603600 b1194163200 c1205053200 b1225612800 c1236502800 b1257062400
    c1268557200 f1289116800|2011 g3.8.6.28800 f11.1.6.25200"),
  ("America/North_Dakota/Center",
    "-24312:LMT -25200:MST -21600:MDT -21600:MWT -21600:MPT -21600:CST -18000:CDT|b-2717643600
    c-1633273200 b-1615132800 c-1601823600 b-1583683200 d-880210800 e-769395600 b-765388800
    c-84380400 b-68659200 c-52930800 b-37209600 c-21481200 b-5760000 c9968400 b25689600
    c41418000 b57744000 c73472400 b89193600 c104922000 b120643200 c126694800 b152092800
    c162378000 b183542400 c199270800 b215596800 c230720400 b247046400 c262774800 b278496000
    c294224400 b309945600 c325674000 b341395200 c357123600 b372844800 c388573200 b404899200
    c420022800 b436348800 c452077200 b467798400 c483526800 b499248000 c514976400 b530697600
    c544611600 b562147200 c576061200 b594201600 c607510800 b625651200 c638960400 b657100800
    c671014800 b688550400 c702464400 f720000000 g733910400 f752050800 g765360000 f783500400
    g796809600 f814950000 g828864000 f846399600 g860313600 f877849200 g891763200 f909298800
    g923212800 f941353200 g954662400 f972802800 g986112000 f1004252400 g1018166400 f1035702000
    g1049616000 f1067151600 g1081065600 f1099206000 g1112515200 f1130655600 g1143964800
    f1162105200|2007 g3.8.6.28800 f11.1.6.25200"),
  ("America/North_Dakota/New_Salem",
    "-24339:LMT -25200:MST -21600:MDT -21600:MWT -21600:MPT -21600:CST -18000:CDT|b-2717643600
    c-1633273200 b-1615132800 c-1601823600 b-1583683200 d-880210800 e-769395600 b-765388800
    c-84380400 b-68659200 c-52930800 b-37209600 c-21481200 b-5760000 c9968400 b25689600
    c41418000 b57744000 c73472400 b89193600 c104922000 b120643200 c126694800 b152092800
    c162378000 b183542400 c199270800 b215596800 c230720400 b247046400 c262774800 b278496000
    c294224400 b309945600 c325674000 b341395200 c357123600 b372844800 c388573200 b404899200
    c420022800 b436348800 c452077200 b467798400 c483526800 b499248000 c514976400 b530697600
    c544611600 b562147200 c576061200 b594201600 c607510800 b625651200 c638960400 b657100800
    c671014800 b688550400 c702464400 b720000000 c733914000 b752054400 c765363600 b783504000
    c796813200 b814953600 c828867600 b846403200 c860317200 b877852800 c891766800 b909302400
    c923216400 b941356800 c954666000 b972806400 c986115600 b1004256000 c1018170000 b1035705600
    c1049619600 f1067155200 g1081065600 f1099206000 g1112515200 f1130655600 g1143964800
    f1162105200|2007 g3.8.6.28800 f11.1.6.25200"),
  ("America/Nuuk",
    "-12416:LMT -10800:-03 -7200:-02 -3600:-01|b-1686083584 c323845200 b338950800 c354675600
    b370400400 c386125200 b401850000 c417574800 b433299600 c449024400 b465354000 c481078800
    b496803600 c512528400 b528253200 c543978000 b559702800 c575427600 b591152400 c606877200
    b622602000 c638326800 b654656400 c670381200 b686106000 c701830800 b717555600 c733280400
    b749005200 c764730000 b780454800 c796179600 b811904400 c828234000 b846378000 c859683600
    b877827600 c891133200 b909277200 c922582800 b941331600 c954032400 b972781200 c985482000
    b1004230800 c1017536400 b1035680400 c1048986000 b1067130000 c1080435600 b1099184400
    c1111885200 b1130634000 c1143334800 b1162083600 c1174784400 b1193533200 c1206838800
    b1224982800 c1238288400 b1256432400 c1269738000 b1288486800 c1301187600 b1319936400
    c1332637200 b1351386000 c1364691600 b1382835600 c1396141200 b1414285200 c1427590800
    b1445734800 c1459040400 b1477789200 c1490490000 b1509238800 c1521939600 b1540688400
    c1553994000 b1572138000 c1585443600 b1603587600 c1616893200 b1635642000 c1648342800
    b1667091600 c1679792400|2024 d3.25.6.3600 c10.25.6.3600"),
  ("America/Ojinaga",
    "-25060:LMT -25200:MST -21600:CST -21600:MDT -18000:CDT|b-1514739600 c-1343149200
    b-1234807200 d-1220461200 b-1207159200 c-1191344400 e828864000 c846399600 e860313600
    c877849200 d891766800 b909302400 d923216400 b941356800 d954666000 b972806400 d989139600
    b1001836800 d1018170000 b1035705600 d1049619600 b1067155200 d1081069200 b1099209600
    d1112518800 b1130659200 d1143968400 b1162108800 d1175418000 b1193558400 d1207472400
    b1225008000 d1238922000 b1256457600 d1268557200 b1289116800 d1300006800 b1320566400
    d1331456400 b1352016000 d1362906000 b1383465600 d1394355600 b1414915200 d1425805200
    b1446364800 d1457859600 b1478419200 d1489309200 b1509868800 d1520758800 b1541318400
    d1552208400 b1572768000 d1583658000 b1604217600 d1615712400 b1636272000 d1647162000
    c1667116800|2023 e3.8.6.28800 c11.1.6.25200"),
  ("America/Panama",
    "-19088:LMT -19176:CMT -18000:EST|b-2524502512 c-1946918424|"),
  ("America/Paramaribo",
    "-13240:LMT -13252:PMT -13236:PMT -12600:-0330 -10800:-03|b-1861906760 c-1104524348
    d-765317964 e465449400|"),
  ("America/Phoenix",
    "-26898:LMT -25200:MST -21600:MDT -21600:MWT|b-2717643600 c-1633273200 b-1615132800
    c-1601823600 b-1583683200 d-880210800 b-820519140 d-812653140 b-796845540 c-84380400
    b-68659200|"),
  ("America/Port-au-Prince",
    "-17360:LMT -17340:PPMT -18000:EST -14400:EDT|b-2524504240 c-1670483460 d421218000
    c436334400 d452062800 c467784000 d483512400 c499233600 d514962000 c530683200 d546411600
    c562132800 d576050400 c594194400 d607500000 c625644000 d638949600 c657093600 d671004000
    c688543200 d702453600 c719992800 d733903200 c752047200 d765352800 c783496800 d796802400
    c814946400 d828856800 c846396000 d860306400 c877845600 d1112504400 c1130644800 d1143954000
    c1162094400 d1331449200 c1352008800 d1362898800 c1383458400 d1394348400 c1414908000
    d1425798000 c1446357600|2017 d3.8.6.25200 c11.1.6.21600"),
  ("America/Porto_Velho",
    "-15336:LMT -14400:-04 -10800:-03|b-1767210264 c-1206954000 b-1191358800 c-1175371200
    b-1159822800 c-633816000 b-622065600 c-602280000 b-591829200 c-570744000 b-560206800
    c-539121600 b-531349200 c-191361600 b-184194000 c-155160000 b-150066000 c-128894400
    b-121122000 c-99950400 b-89586000 c-68414400 b-57963600 c499752000 b511239600 c530596800
    b540270000 c562132800 b571201200|"),
  ("America/Puerto_Rico",
    "-15865:LMT -14400:AST -10800:AWT -10800:APT|b-2233035335 c-873057600 d-769395600
    b-765399600|"),
  ("America/Punta_Arenas",
    "-17020:LMT -16965:SMT -18000:-05 -14400:-04 -10800:-03|b-2524504580 c-1892661435
    b-1688410800 d-1619205435 b-1593806400 d-1335986235 c-1317585600 d-1304362800 c-1286049600
    d-1272826800 c-1254513600 d-1241290800 c-1222977600 d-1209754800 c-1191355200 d-1178132400
    c-870552000 d-865278000 c-718056000 d-713649600 e-36619200 d-23922000 e-3355200 d7527600
    e24465600 d37767600 e55915200 d69217200 e87969600 d100666800 e118209600 d132116400
    e150868800 d163566000 e182318400 d195620400 e213768000 d227070000 e245217600 d258519600
    e277272000 d289969200 e308721600 d321418800 e340171200 d353473200 e371620800 d384922800
    e403070400 d416372400 e434520000 d447822000 e466574400 d479271600 e498024000 d510721200
    e529473600 d545194800 e560923200 d574225200 e592372800 d605674800 e624427200 d637124400
    e653457600 d668574000 e687326400 d700628400 e718776000 d732078000 e750225600 d763527600
    e781675200 d794977200 e813729600 d826426800 e845179200 d859690800 e876628800 d889930800
    e906868800 d923194800 e939528000 d952830000 e971582400 d984279600 e1003032000 d1015729200
    e1034481600 d1047178800 e1065931200 d1079233200 e1097380800 d1110682800 e1128830400
    d1142132400 e1160884800 d1173582000 e1192334400 d1206846000 e1223784000 d1237086000
    e1255233600 d1270350000 e1286683200 d1304823600 e1313899200 d1335668400 e1346558400
    d1367118000 e1378612800 d1398567600 e1410062400 d1463281200 e1471147200|"),
  ("America/Rankin_Inlet",
    "0:-00 -21600:CST -18000:CDT -18000:EST|b-410227200 c73468800 b89190000 c104918400
    b120639600 c136368000 b152089200 c167817600 b183538800 c199267200 b215593200 c230716800
    b247042800 c262771200 b278492400 c294220800 b309942000 c325670400 b341391600 c357120000
    b372841200 c388569600 b404895600 c420019200 b436345200 c452073600 b467794800 c483523200
    b499244400 c514972800 b530694000 c544608000 b562143600 c576057600 b594198000 c607507200
    b625647600 c638956800 b657097200 c671011200 b688546800 c702460800 b719996400 c733910400
    b752050800 c765360000 b783500400 c796809600 b814950000 c828864000 b846399600 c860313600
    b877849200 c891763200 b909298800 c923212800 b941353200 c954662400 d972802800 c986112000
    b1004252400 c1018166400 b1035702000 c1049616000 b1067151600 c1081065600 b1099206000
    c1112515200 b1130655600 c1143964800 b1162105200|2007 c3.8.6.28800 b11.1.6.25200"),
  ("America/Recife",
    "-8376:LMT -10800:-03 -7200:-02|b-1767217224 c-1206957600 b-1191362400 c-1175374800
    b-1159826400 c-633819600 b-622069200 c-602283600 b-591832800 c-570747600 b-560210400
    c-539125200 b-531352800 c-191365200 b-184197600 c-155163600 b-150069600 c-128898000
    b-121125600 c-99954000 b-89589600 c-68418000 b-57967200 c499748400 b511236000 c530593200
    b540266400 c562129200 b571197600 c592974000 b602042400 c624423600 b634701600 c938919600
    b951616800 c970974000 b971575200 c1003028400 b1013911200|"),
  ("America/Regina",
    "-25116:LMT -25200:MST -21600:MDT -21600:MWT -21600:MPT -21600:CST|b-2030202084 c-1632063600
    b-1615132800 c-1251651600 b-1238349600 c-1220202000 b-1206900000 c-1188752400 b-1175450400
    c-1156698000 b-1144000800 c-1125248400 b-1111946400 c-1032714000 b-1016992800 c-1001264400
    b-986148000 c-969814800 b-954093600 c-937760400 b-922039200 c-906310800 b-890589600
    d-880210800 e-769395600 b-765388800 c-748450800 b-732729600 c-715791600 b-702489600
    c-684342000 b-671040000 c-652892400 b-639590400 c-620838000 b-608140800 c-589388400
    b-576086400 c-557938800 b-544636800 c-526489200 b-513187200 c-495039600 b-481737600
    c-463590000 b-450288000 c-431535600 b-418233600 c-400086000 b-386784000 c-337186800
    b-321465600 f-305737200|"),
  ("America/Resolute",
    "0:-00 -21600:CST -18000:CDT -18000:EST|b-704937600 c73468800 b89190000 c104918400
    b120639600 c136368000 b152089200 c167817600 b183538800 c199267200 b215593200 c230716800
    b247042800 c262771200 b278492400 c294220800 b309942000 c325670400 b341391600 c357120000
    b372841200 c388569600 b404895600 c420019200 b436345200 c452073600 b467794800 c483523200
    b499244400 c514972800 b530694000 c544608000 b562143600 c576057600 b594198000 c607507200
    b625647600 c638956800 b657097200 c671011200 b688546800 c702460800 b719996400 c733910400
    b752050800 c765360000 b783500400 c796809600 b814950000 c828864000 b846399600 c860313600
    b877849200 c891763200 b909298800 c923212800 b941353200 c954662400 d972802800 c986112000
    b1004252400 c1018166400 b1035702000 c1049616000 b1067151600 c1081065600 b1099206000
    c1112515200 b1130655600 c1143964800 d1162105200|2007 c3.8.6.28800 b11.1.6.25200"),
  ("America/Rio_Branco",
    "-16272:LMT -18000:-05 -14400:-04|b-1767209328 c-1206950400 b-1191355200 c-1175367600
    b-1159819200 c-633812400 b-622062000 c-602276400 b-591825600 c-570740400 b-560203200
    c-539118000 b-531345600 c-191358000 b-184190400 c-155156400 b-150062400 c-128890800
    b-121118400 c-99946800 b-89582400 c-68410800 b-57960000 c499755600 b511243200 c530600400
    b540273600 c562136400 b571204800 c1214283600 b1384056000|"),
  ("America/Santarem",
    "-13128:LMT -14400:-04 -10800:-03|b-1767212472 c-1206954000 b-1191358800 c-1175371200
    b-1159822800 c-633816000 b-622065600 c-602280000 b-591829200 c-570744000 b-560206800
    c-539121600 b-531349200 c-191361600 b-184194000 c-155160000 b-150066000 c-128894400
    b-121122000 c-99950400 b-89586000 c-68414400 b-57963600 c499752000 b511239600 c530596800
    b540270000 c562132800 b571201200 c1214280000|"),
  ("America/Santiago",
    "-16965:LMT -16965:SMT -18000:-05 -14400:-04 -10800:-03|b-2524504635 c-1892661435
    b-1688410800 d-1619205435 b-1593806400 d-1335986235 c-1317585600 d-1304362800 c-1286049600
    d-1272826800 c-1254513600 d-1241290800 c-1222977600 d-1209754800 c-1191355200 d-1178132400
    c-870552000 d-865278000 e-740520000 d-736635600 c-718056000 d-713649600 e-36619200
    d-23922000 e-3355200 d7527600 e24465600 d37767600 e55915200 d69217200 e87969600 d100666800
    e118209600 d132116400 e150868800 d163566000 e182318400 d195620400 e213768000 d227070000
    e245217600 d258519600 e277272000 d289969200 e308721600 d321418800 e340171200 d353473200
    e371620800 d384922800 e403070400 d416372400 e434520000 d447822000 e466574400 d479271600
    e498024000 d510721200 e529473600 d545194800 e560923200 d574225200 e592372800 d605674800
    e624427200 d637124400 e653457600 d668574000 e687326400 d700628400 e718776000 d732078000
    e750225600 d763527600 e781675200 d794977200 e813729600 d826426800 e845179200 d859690800
    e876628800 d889930800 e906868800 d923194800 e939528000 d952830000 e971582400 d984279600
    e1003032000 d1015729200 e1034481600 d1047178800 e1065931200 d1079233200 e1097380800
    d1110682800 e1128830400 d1142132400 e1160884800 d1173582000 e1192334400 d1206846000
    e1223784000 d1237086000 e1255233600 d1270350000 e1286683200 d1304823600 e1313899200
    d1335668400 e1346558400 d1367118000 e1378612800 d1398567600 e1410062400 d1463281200
    e1471147200 d1494730800 e1502596800 d1526180400 e1534046400 d1554606000 e1567915200
    d1586055600 e1599364800 d1617505200 e1630814400 d1648954800 e1662868800|2023 d4.2.6.10800
    e9.2.6.14400"),
  ("America/Santo_Domingo",
    "-16776:LMT -16800:SDMT -18000:EST -14400:EDT -16200:-0430 -14400:AST|b-2524504824
    c-1159773600 d-100119600 c-89668800 e-5770800 c4422600 e25678800 c33193800 e57733200
    c64816200 e89182800 c96438600 e120632400 c127974600 f152082000 c972799200 f975823200|"),
  ("America/Sao_Paulo",
    "-11188:LMT -10800:-03 -7200:-02|b-1767214412 c-1206957600 b-1191362400 c-1175374800
    b-1159826400 c-633819600 b-622069200 c-602283600 b-591832800 c-570747600 b-560210400
    c-539125200 b-531352800 c-195426000 b-184197600 c-155163600 b-150069600 c-128898000
    b-121125600 c-99954000 b-89589600 c-68418000 b-57967200 c499748400 b511236000 c530593200
    b540266400 c562129200 b571197600 c592974000 b602042400 c624423600 b634701600 c656478000
    b666756000 c687927600 b697600800 c719982000 b728445600 c750826800 b761709600 c782276400
    b793159200 c813726000 b824004000 c844570800 b856058400 c876106800 b888717600 c908074800
    b919562400 c938919600 b951616800 c970974000 b982461600 c1003028400 b1013911200 c1036292400
    b1045360800 c1066532400 b1076810400 c1099364400 b1108864800 c1129431600 b1140314400
    c1162695600 b1172368800 c1192330800 b1203213600 c1224385200 b1234663200 c1255834800
    b1266717600 c1287284400 b1298167200 c1318734000 b1330221600 c1350788400 b1361066400
    c1382238000 b1392516000 c1413687600 b1424570400 c1445137200 b1456020000 c1476586800
    b1487469600 c1508036400 b1518919200 c1541300400 b1550368800|"),
  ("America/Scoresbysund",
    "-5272:LMT -7200:-02 -3600:-01 0:+00|b-1686090728 c323841600 b338961600 d354679200
    c370400400 d386125200 c401850000 d417574800 c433299600 d449024400 c465354000 d481078800
    c496803600 d512528400 c528253200 d543978000 c559702800 d575427600 c591152400 d606877200
    c622602000 d638326800 c654656400 d670381200 c686106000 d701830800 c717555600 d733280400
    c749005200 d764730000 c780454800 d796179600 c811904400 d828234000 c846378000 d859683600
    c877827600 d891133200 c909277200 d922582800 c941331600 d954032400 c972781200 d985482000
    c1004230800 d1017536400 c1035680400 d1048986000 c1067130000 d1080435600 c1099184400
    d1111885200 c1130634000 d1143334800 c1162083600 d1174784400 c1193533200 d1206838800
    c1224982800 d1238288400 c1256432400 d1269738000 c1288486800 d1301187600 c1319936400
    d1332637200 c1351386000 d1364691600 c1382835600 d1396141200 c1414285200 d1427590800
    c1445734800 d1459040400 c1477789200 d1490490000 c1509238800 d1521939600 c1540688400
    d1553994000 c1572138000 d1585443600 c1603587600 d1616893200 c1635642000 d1648342800
    c1667091600 d1679792400 c1698541200 b1729990800|2025 c3.25.6.3600 b10.25.6.3600"),
  ("America/Sitka",
    "53927:LMT -32473:LMT -28800:PST -25200:PWT -25200:PPT -25200:PDT -32400:YST -32400:AKST
    -28800:AKDT|b-3225223727 c-2188954727 d-880207200 e-769395600 c-765385200 f-21477600
    c-5756400 f9972000 c25693200 f41421600 c57747600 f73476000 c89197200 f104925600 c120646800
    f126698400 c152096400 f162381600 c183546000 f199274400 c215600400 f230724000 c247050000
    f262778400 c278499600 f294228000 c309949200 f325677600 c341398800 f357127200 c372848400
    f388576800 c404902800 f420026400 g436352400 h439030800 i452084400 h467805600 i483534000
    h499255200 i514983600 h530704800 i544618800 h562154400 i576068400 h594208800 i607518000
    h625658400 i638967600 h657108000 i671022000 h688557600 i702471600 h720007200 i733921200
    h752061600 i765370800 h783511200 i796820400 h814960800 i828874800 h846410400 i860324400
    h877860000 i891774000 h909309600 i923223600 h941364000 i954673200 h972813600 i986122800
    h1004263200 i1018177200 h1035712800 i1049626800 h1067162400 i1081076400 h1099216800
    i1112526000 h1130666400 i1143975600 h1162116000|2007 i3.8.6.39600 h11.1.6.36000"),
  ("America/St_Johns",
    "-12652:LMT -12652:NST -9052:NDT -12600:NST -9000:NDT -9000:NWT -9000:NPT
    -5400:NDDT|b-2713897748 c-1664130548 b-1650137348 c-1632076148 b-1615145348 c-1598650148
    b-1590100148 c-1567286948 b-1551565748 c-1535837348 b-1520116148 c-1503782948 b-1488666548
    c-1472333348 b-1457216948 c-1440883748 b-1425767348 c-1409434148 b-1394317748 c-1377984548
    b-1362263348 c-1346534948 b-1330813748 c-1314480548 b-1299364148 c-1283030948 b-1267914548
    c-1251581348 b-1236464948 c-1220131748 b-1205015348 c-1188682148 b-1172960948 c-1156627748
    b-1141511348 c-1125178148 b-1110061748 d-1096921748 e-1093728600 d-1078612200 e-1061670600
    d-1048973400 e-1030221000 d-1017523800 e-998771400 d-986074200 e-966717000 d-954624600
    e-935267400 d-922570200 e-903817800 d-891120600 f-872368200 g-769395600 d-765401400
    e-746044200 d-733347000 e-714594600 d-701897400 e-683145000 d-670447800 e-651695400
    d-638998200 e-619641000 d-606943800 e-589401000 d-576099000 e-557951400 d-544649400
    e-526501800 d-513199800 e-495052200 d-481750200 e-463602600 d-450300600 e-431548200
    d-418246200 e-400098600 d-386796600 e-368649000 d-355347000 e-337199400 d-323897400
    e-305749800 d-289423800 e-273695400 d-257974200 e-242245800 d-226524600 e-210796200
    d-195075000 e-179346600 d-163625400 e-147897000 d-131571000 e-116447400 d-100121400
    e-84393000 d-68671800 e-52943400 d-37222200 e-21493800 d-5772600 e9955800 d25677000
    e41405400 d57731400 e73459800 d89181000 e104909400 d120630600 e136359000 d152080200
    e167808600 d183529800 e199258200 d215584200 e230707800 d247033800 e262762200 d278483400
    e294211800 d309933000 e325661400 d341382600 e357111000 d372832200 e388560600 d404886600
    e420010200 d436336200 e452064600 d467785800 e483514200 d499235400 e514963800 d530685000
    e544591860 d562127460 h576041460 d594178260 e607491060 d625631460 e638940660 d657081060
    e670995060 d688530660 e702444660 d719980260 e733894260 d752034660 e765343860 d783484260
    e796793460 d814933860 e828847860 d846383460 e860297460 d877833060 e891747060 d909282660
    e923196660 d941337060 e954646260 d972786660 e986095860 d1004236260 e1018150260 d1035685860
    e1049599860 d1067135460 e1081049460 d1099189860 e1112499060 d1130639460 e1143948660
    d1162089060 e1173583860 d1194143460 e1205033460 d1225593060 e1236483060 d1257042660
    e1268537460 d1289097060 e1299987060 d1320553800|2012 e3.8.6.19800 d11.1.6.16200"),
  ("America/Swift_Current",
    "-25880:LMT -25200:MST -21600:MDT -21600:MWT -21600:MPT -21600:CST|b-2030201320 c-1632063600
    b-1615132800 d-880210800 e-769395600 b-765388800 c-747241200 b-732729600 c-715791600
    b-702489600 c-684342000 b-671040000 c-652892400 b-639590400 c-400086000 b-384364800
    c-337186800 b-321465600 c-305737200 b-292435200 c-273682800 b-260985600 f73472400|"),
  ("America/Tegucigalpa",
    "-20932:LMT -21600:CST -18000:CDT|b-1538503868 c547020000 b559717200 c578469600 b591166800
    c1146981600 b1154926800|"),
  ("America/Thule",
    "-16508:LMT -14400:AST -10800:ADT|b-1686079492 c670399200 b686120400 c701848800 b717570000
    c733903200 b752043600 c765352800 b783493200 c796802400 b814942800 c828856800 b846392400
    c860306400 b877842000 c891756000 b909291600 c923205600 b941346000 c954655200 b972795600
    c986104800 b1004245200 c1018159200 b1035694800 c1049608800 b1067144400 c1081058400
    b1099198800 c1112508000 b1130648400 c1143957600 b1162098000|2007 c3.8.6.21600 b11.1.6.18000"),
  ("America/Tijuana",
    "-28084:LMT -25200:MST -28800:PST -25200:PDT -25200:PWT -25200:PPT|b-1514739600 c-1451667600
    b-1343145600 c-1234803600 d-1222963200 c-1207242000 e-873820800 f-769395600 c-761418000
    d-686073600 c-661539600 d-620755200 c-608144400 d-589384800 c-576082800 d-557935200
    c-544633200 d-526489200 c-513183600 d-495039600 c-481734000 d-463590000 c-450284400
    d-431535600 c-418230000 d-400086000 c-386780400 d-368636400 c-355330800 d-337186800
    c-323881200 d-305737200 c-292431600 d-273682800 c-260982000 d-242233200 c-226508400
    d-210783600 c-195058800 d-179334000 c-163609200 d-147884400 c-131554800 d-116434800
    c-100105200 d-84376800 c-68655600 d-52927200 c-37206000 d-21477600 c-5756400 d9972000
    c25693200 d41421600 c57747600 d73476000 c89197200 d104925600 c120646800 d126698400
    c152096400 d162381600 c183546000 d199274400 c215600400 d230724000 c247050000 d262778400
    c278499600 d294228000 c309949200 d325677600 c341398800 d357127200 c372848400 d388576800
    c404902800 d420026400 c436352400 d452080800 c467802000 d483530400 c499251600 d514980000
    c530701200 d544615200 c562150800 d576064800 c594205200 d607514400 c625654800 d638964000
    c657104400 d671018400 c688554000 d702468000 c720003600 d733917600 c752058000 d765367200
    c783507600 d796816800 c814957200 d828871200 c846406800 d860320800 c877856400 d891770400
    c909306000 d923220000 c941360400 d954669600 c972810000 d986119200 c1004259600 d1018173600
    c1035709200 d1049623200 c1067158800 d1081072800 c1099213200 d1112522400 c1130662800
    d1143972000 c1162112400 d1175421600 c1193562000 d1207476000 c1225011600 d1238925600
    c1256461200|2010 d3.8.6.36000 c11.1.6.32400"),
  ("America/Toronto",
    "-19052:LMT -18000:EST -14400:EDT -14400:EWT -14400:EPT|b-2366736148 c-1632070800
    b-1615140000 c-1601753400 b-1583697600 c-1567357200 b-1554667200 c-1534698000 b-1524074400
    c-1503248400 b-1492365600 c-1471798800 b-1460916000 c-1440954000 b-1428861600 c-1409504400
    b-1397412000 c-1378054800 b-1365962400 c-1346605200 b-1333908000 c-1315155600 b-1301853600
    c-1283706000 b-1270404000 c-1252256400 b-1238954400 c-1220806800 b-1207504800 c-1188752400
    b-1176055200 c-1157302800 b-1144000800 c-1125853200 b-1112551200 c-1094403600 b-1081101600
    c-1062954000 b-1049652000 c-1031504400 b-1018202400 c-1000054800 b-986752800 c-968000400
    b-955303200 c-936550800 d-880218000 e-769395600 b-765396000 c-747248400 b-733946400
    c-715798800 b-702496800 c-684349200 b-671047200 c-652899600 b-634154400 c-620845200
    b-602704800 c-589395600 b-576093600 c-557946000 b-544644000 c-526496400 b-513194400
    c-495046800 b-481744800 c-463597200 b-450295200 c-431542800 b-418240800 c-400093200
    b-384372000 c-368643600 b-352922400 c-337194000 b-321472800 c-305744400 b-289418400
    c-273690000 b-257968800 c-242240400 b-226519200 c-210790800 b-195069600 c-179341200
    b-163620000 c-147891600 b-131565600 c-116442000 b-100116000 c-84387600 b-68666400
    c-52938000 b-37216800 c-21488400 b-5767200 c9961200 b25682400 c41410800 b57736800 c73465200
    b89186400 c104914800 b120636000 c136364400 b152085600 c167814000 b183535200 c199263600
    b215589600 c230713200 b247039200 c262767600 b278488800 c294217200 b309938400 c325666800
    b341388000 c357116400 b372837600 c388566000 b404892000 c420015600 b436341600 c452070000
    b467791200 c483519600 b499240800 c514969200 b530690400 c544604400 b562140000 c576054000
    b594194400 c607503600 b625644000 c638953200 b657093600 c671007600 b688543200 c702457200
    b719992800 c733906800 b752047200 c765356400 b783496800 c796806000 b814946400 c828860400
    b846396000 c860310000 b877845600 c891759600 b909295200 c923209200 b941349600 c954658800
    b972799200 c986108400 b1004248800 c1018162800 b1035698400 c1049612400 b1067148000
    c1081062000 b1099202400 c1112511600 b1130652000 c1143961200 b1162101600|2007 c3.8.6.25200
    b11.1.6.21600"),
  ("America/Vancouver",
    "-29548:LMT -28800:PST -25200:PDT -25200:PWT -25200:PPT|b-2713880852 c-1632060000
    b-1615129200 d-880207200 e-769395600 b-765385200 c-747237600 b-733935600 c-715788000
    b-702486000 c-684338400 b-671036400 c-652888800 b-639586800 c-620834400 b-608137200
    c-589384800 b-576082800 c-557935200 b-544633200 c-526485600 b-513183600 c-495036000
    b-481734000 c-463586400 b-450284400 c-431532000 b-418230000 c-400082400 b-386780400
    c-368632800 b-355330800 c-337183200 b-323881200 c-305733600 b-292431600 c-273679200
    b-260982000 c-242229600 b-226508400 c-210780000 b-195058800 c-179330400 b-163609200
    c-147880800 b-131554800 c-116431200 b-100105200 c-84376800 b-68655600 c-52927200 b-37206000
    c-21477600 b-5756400 c9972000 b25693200 c41421600 b57747600 c73476000 b89197200 c104925600
    b120646800 c136375200 b152096400 c167824800 b183546000 c199274400 b215600400 c230724000
    b247050000 c262778400 b278499600 c294228000 b309949200 c325677600 b341398800 c357127200
    b372848400 c388576800 b404902800 c420026400 b436352400 c452080800 b467802000 c483530400
    b499251600 c514980000 b530701200 c544615200 b562150800 c576064800 b594205200 c607514400
    b625654800 c638964000 b657104400 c671018400 b688554000 c702468000 b720003600 c733917600
    b752058000 c765367200 b783507600 c796816800 b814957200 c828871200 b846406800 c860320800
    b877856400 c891770400 b909306000 c923220000 b941360400 c954669600 b972810000 c986119200
    b1004259600 c1018173600 b1035709200 c1049623200 b1067158800 c1081072800 b1099213200
    c1112522400 b1130662800 c1143972000 b1162112400|2007 c3.8.6.36000 b11.1.6.32400"),
  ("America/Whitehorse",
    "-32412:LMT -32400:YST -28800:YDT -28800:YWT -28800:YPT -25200:YDDT -28800:PST -25200:PDT
    -25200:MST|b-2188997988 c-1632056400 b-1615125600 c-1596978000 b-1583164800 d-880203600
    e-769395600 b-765381600 f-147884400 b-131554800 g-121273200 h325677600 g341398800
    h357127200 g372848400 h388576800 g404902800 h420026400 g436352400 h452080800 g467802000
    h483530400 g499251600 h514980000 g530701200 h544615200 g562150800 h576064800 g594205200
    h607514400 g625654800 h638964000 g657104400 h671018400 g688554000 h702468000 g720003600
    h733917600 g752058000 h765367200 g783507600 h796816800 g814957200 h828871200 g846406800
    h860320800 g877856400 h891770400 g909306000 h923220000 g941360400 h954669600 g972810000
    h986119200 g1004259600 h1018173600 g1035709200 h1049623200 g1067158800 h1081072800
    g1099213200 h1112522400 g1130662800 h1143972000 g1162112400 h1173607200 g1194166800
    h1205056800 g1225616400 h1236506400 g1257066000 h1268560800 g1289120400 h1300010400
    g1320570000 h1331460000 g1352019600 h1362909600 g1383469200 h1394359200 g1414918800
    h1425808800 g1446368400 h1457863200 g1478422800 h1489312800 g1509872400 h1520762400
    g1541322000 h1552212000 g1572771600 h1583661600 i1604214000|"),
  ("America/Winnipeg",
    "-23316:LMT -21600:CST -18000:CDT -18000:CWT -18000:CPT|b-2602258284 c-1694368800
    b-1681671600 c-1632067200 b-1615136400 c-1029686400 b-1018198800 d-880214400 e-769395600
    b-765392400 c-746035200 b-732733200 c-715795200 b-702493200 c-684345600 b-671043600
    c-652896000 b-639594000 c-620755200 b-607626000 c-589392000 b-576090000 c-557942400
    b-544640400 c-526492800 b-513190800 c-495043200 b-481741200 c-463593600 b-450291600
    c-431539200 b-418237200 c-400089600 b-386787600 c-368640000 b-355338000 c-337190400
    b-321469200 c-305740800 b-292438800 c-210787200 b-198090000 c-116438400 b-100108800
    c-84384000 b-68659200 c-52934400 b-37209600 c-21484800 b-5760000 c9964800 b25689600
    c41414400 b57744000 c73468800 b89193600 c104918400 b120643200 c136368000 b152092800
    c167817600 b183542400 c199267200 b215596800 c230716800 b247046400 c262771200 b278496000
    c294220800 b309945600 c325670400 b341395200 c357120000 b372844800 c388569600 b404899200
    c420019200 b436348800 c452073600 b467798400 c483523200 b499248000 c514972800 b530697600
    c544608000 b562147200 c576057600 b594201600 c607507200 b625651200 c638956800 b657100800
    c671011200 b688550400 c702460800 b720000000 c733910400 b752054400 c765360000 b783504000
    c796809600 b814953600 c828864000 b846403200 c860313600 b877852800 c891763200 b909302400
    c923212800 b941356800 c954662400 b972806400 c986112000 b1004256000 c1018166400 b1035705600
    c1049616000 b1067155200 c1081065600 b1099209600 c1112515200 b1130659200 c1143964800
    b1162105200|2007 c3.8.6.28800 b11.1.6.25200"),
  ("America/Yakutat",
    "52865:LMT -33535:LMT -32400:YST -28800:YWT -28800:YPT -28800:YDT -32400:AKST
    -28800:AKDT|b-3225223727 c-2188953665 d-880203600 e-769395600 c-765381600 f-21474000
    c-5752800 f9975600 c25696800 f41425200 c57751200 f73479600 c89200800 f104929200 c120650400
    f126702000 c152100000 f162385200 c183549600 f199278000 c215604000 f230727600 c247053600
    f262782000 c278503200 f294231600 c309952800 f325681200 c341402400 f357130800 c372852000
    f388580400 c404906400 f420030000 c436356000 g439030800 h452084400 g467805600 h483534000
    g499255200 h514983600 g530704800 h544618800 g562154400 h576068400 g594208800 h607518000
    g625658400 h638967600 g657108000 h671022000 g688557600 h702471600 g720007200 h733921200
    g752061600 h765370800 g783511200 h796820400 g814960800 h828874800 g846410400 h860324400
    g877860000 h891774000 g909309600 h923223600 g941364000 h954673200 g972813600 h986122800
    g1004263200 h1018177200 g1035712800 h1049626800 g1067162400 h1081076400 g1099216800
    h1112526000 g1130666400 h1143975600 g1162116000|2007 h3.8.6.39600 g11.1.6.36000")]

end PathTemplate.Time.ZoneTable
