/-
# Zones named for Europe

Key definitions: `europe`, the names of the zones with their records.
-/

namespace PathTemplate.Time.ZoneTable

/-- The records of the zones, by name. -/
def europe : List (String × String) := [
  ("Europe/Andorra",
    "364:LMT 0:WET 3600:CET 7200:CEST|b-2177453164 c-733881600 d481078800 c496803600 d512528400
    c528253200 d543978000 c559702800 d575427600 c591152400 d606877200 c622602000 d638326800
    c654656400 d670381200 c686106000 d701830800 c717555600 d733280400 c749005200 d764730000
    c780454800 d796179600 c811904400|1996 d3.25.6.3600 c10.25.6.3600"),
  ("Europe/Astrakhan",
    "11532:LMT 10800:+03 14400:+04 18000:+05|b-1441249932 c-1247540400 d354916800 c370724400
    d386452800 c402260400 d417988800 c433796400 d449611200 c465343200 d481068000 c496792800
    d512517600 c528242400 d543967200 c559692000 d575416800 c591141600 b622594800 c638319600
    b654649200 c670374000 b717548400 c733273200 b748998000 c764722800 b780447600 c796172400
    b811897200 c828226800 b846370800 c859676400 b877820400 c891126000 b909270000 c922575600
    b941324400 c954025200 b972774000 c985474800 b1004223600 c1017529200 b1035673200 c1048978800
    b1067122800 c1080428400 b1099177200 c1111878000 b1130626800 c1143327600 b1162076400
    c1174777200 b1193526000 c1206831600 b1224975600 c1238281200 b1256425200 c1269730800
    b1288479600 c1301180400 b1414274400 c1459033200|"),
  ("Europe/Athens",
    "5692:LMT 5692:AMT 7200:EET 10800:EEST 7200:CEST 3600:CET|b-2344642492 c-1686101632
    d-1182996000 c-1178161200 d-906861600 e-904878000 f-857257200 e-844477200 f-828237600
    c-812422800 d-552362400 c-541652400 d166485600 c186184800 d198028800 c213753600 d228873600
    c244080000 d260323200 c275446800 d291798000 c307407600 d323388000 c338936400 d354675600
    c370400400 d386125200 c401850000 d417574800 c433299600 d449024400 c465354000 d481078800
    c496803600 d512528400 c528253200 d543978000 c559702800 d575427600 c591152400 d606877200
    c622602000 d638326800 c654656400 d670381200 c686106000 d701830800 c717555600 d733280400
    c749005200 d764730000 c780454800 d796179600 c811904400|1996 d3.25.6.3600 c10.25.6.3600"),
  ("Europe/Belgrade",
    "4920:LMT 3600:CET 7200:CEST|b-2713915320 c-905824800 b-857257200 c-844556400 b-828226800
    c-812502000 b-796777200 c-777942000 b-766623600 c417574800 b433299600 c449024400 b465354000
    c481078800 b496803600 c512528400 b528253200 c543978000 b559702800 c575427600 b591152400
    c606877200 b622602000 c638326800 b654656400 c670381200 b686106000 c701830800 b717555600
    c733280400 b749005200 c764730000 b780454800 c796179600 b811904400|1996 c3.25.6.3600
    b10.25.6.3600"),
  ("Europe/Berlin",
    "3208:LMT 3600:CET 7200:CEST 10800:CEMT|b-2422054408 c-1693706400 b-1680483600 c-1663455600
    b-1650150000 c-1632006000 b-1618700400 c-938905200 b-857257200 c-844556400 b-828226800
    c-812502000 b-796777200 c-781052400 d-776563200 c-765936000 b-761180400 c-748479600
    b-733273200 c-717631200 d-714610800 c-710380800 b-701910000 c-684975600 b-670460400
    c-654130800 b-639010800 c323830800 b338950800 c354675600 b370400400 c386125200 b401850000
    c417574800 b433299600 c449024400 b465354000 c481078800 b496803600 c512528400 b528253200
    c543978000 b559702800 c575427600 b591152400 c606877200 b622602000 c638326800 b654656400
    c670381200 b686106000 c701830800 b717555600 c733280400 b749005200 c764730000 b780454800
    c796179600 b811904400|1996 c3.25.6.3600 b10.25.6.3600"),
  ("Europe/Brussels",
    "1050:LMT 1050:BMT 0:WET 3600:CET 7200:CEST 3600:WEST|b-2840141850 c-2450995200 d-1740355200
    e-1693702800 d-1680483600 e-1663455600 d-1650150000 e-1632006000 d-1618700400 c-1613826000
    f-1604278800 c-1585530000 f-1574038800 c-1552266000 f-1539997200 c-1520557200 f-1507510800
    c-1490576400 f-1473642000 c-1459126800 f-1444006800 c-1427677200 f-1411952400 c-1396227600
    f-1379293200 c-1364778000 f-1348448400 c-1333328400 f-1316394000 c-1301263200 f-1284328800
    c-1269813600 f-1253484000 c-1238364000 f-1221429600 c-1206914400 f-1191189600 c-1175464800
    f-1160344800 c-1143410400 f-1127685600 c-1111960800 f-1096840800 c-1080511200 f-1063576800
    c-1049061600 f-1033336800 c-1017612000 f-1002492000 c-986162400 f-969228000 c-950479200
    f-942012000 e-934668000 d-857257200 e-844556400 d-828226800 e-812502000 d-798073200
    e-781052400 d-766623600 e-745455600 d-733273200 e228877200 d243997200 e260326800 d276051600
    e291776400 d307501200 e323830800 d338950800 e354675600 d370400400 e386125200 d401850000
    e417574800 d433299600 e449024400 d465354000 e481078800 d496803600 e512528400 d528253200
    e543978000 d559702800 e575427600 d591152400 e606877200 d622602000 e638326800 d654656400
    e670381200 d686106000 e701830800 d717555600 e733280400 d749005200 e764730000 d780454800
    e796179600 d811904400|1996 e3.25.6.3600 d10.25.6.3600"),
  ("Europe/Bucharest",
    "6264:LMT 6264:BMT 7200:EET 10800:EEST|b-2469404664 c-1213148664 d-1187056800 c-1175479200
    d-1159754400 c-1144029600 d-1127700000 c-1111975200 d-1096250400 c-1080525600 d-1064800800
    c-1049076000 d-1033351200 c-1017626400 d-1001901600 c-986176800 d-970452000 c-954727200
    d296604000 c307486800 d323816400 c338940000 d354672000 c370396800 d386121600 c401846400
    d417571200 c433296000 d449020800 c465350400 d481075200 c496800000 d512524800 c528249600
    d543974400 c559699200 d575424000 c591148800 d606873600 c622598400 d638323200 c654652800
    d670370400 c686095200 d701820000 c717544800 d733269600 c748994400 d764719200 c780440400
    d796168800 c811890000 d828223200 c846363600|1997 d3.25.6.3600 c10.25.6.3600"),
  ("Europe/Budapest",
    "4580:LMT 3600:CET 7200:CEST|b-2498260580 c-1693706400 b-1680483600 c-1663455600
    b-1650150000 c-1632006000 b-1618700400 c-1600470000 b-1587250800 c-1569711600 b-1555196400
    c-906775200 b-857257200 c-844556400 b-828226800 c-812502000 b-796777200 c-778471200
    b-762656400 c-749689200 b-733276800 c-717634800 b-701910000 c-686185200 b-670460400
    c-654130800 b-639010800 c-492656400 b-481168800 c-461199600 b-449708400 c-428540400
    b-418258800 c-397090800 b-386809200 c323823600 b338943600 c354668400 b370393200 c386118000
    b401842800 c417567600 b433292400 c449024400 b465354000 c481078800 b496803600 c512528400
    b528253200 c543978000 b559702800 c575427600 b591152400 c606877200 b622602000 c638326800
    b654656400 c670381200 b686106000 c701830800 b717555600 c733280400 b749005200 c764730000
    b780454800 c796179600 b811904400|1996 c3.25.6.3600 b10.25.6.3600"),
  ("Europe/Chisinau",
    "6920:LMT 6900:CMT 6264:BMT 7200:EET 10800:EEST 7200:CEST 3600:CET 10800:MSK
    14400:MSD|b-2840147720 c-1637114100 d-1213148664 e-1187056800 d-1175479200 e-1159754400
    d-1144029600 e-1127700000 d-1111975200 e-1096250400 d-1080525600 e-1064800800 d-1049076000
    e-1033351200 d-1017626400 e-1001901600 d-986176800 e-970452000 d-954727200 e-927165600
    f-898138800 g-857257200 f-844556400 g-828226800 f-812502000 h-800157600 i354920400
    h370728000 i386456400 h402264000 i417992400 h433800000 i449614800 h465346800 i481071600
    h496796400 i512521200 h528246000 i543970800 h559695600 i575420400 h591145200 i606870000
    h622594800 i638319600 e641944800 d654652800 e670377600 d686102400 e701820000 d717541200
    e733269600 d748990800 e764719200 d780440400 e796168800 d811890000 e828223200
    d846363600|1997 e3.25.6.0 d10.25.6.0"),
  ("Europe/Dublin",
    "-1521:LMT -1521:DMT 2079:IST 0:GMT 3600:BST 3600:IST|b-2821649679 c-1691962479 d-1680471279
    e-1664143200 d-1650146400 e-1633903200 d-1617487200 e-1601848800 d-1586037600 e-1570399200
    d-1552168800 e-1538344800 d-1522533600 f-1507500000 d-1490565600 f-1473631200 d-1460930400
    f-1442786400 d-1428876000 f-1410732000 d-1396216800 f-1379282400 d-1364767200 f-1348437600
    d-1333317600 f-1315778400 d-1301263200 f-1284328800 d-1269813600 f-1253484000 d-1238364000
    f-1221429600 d-1206914400 f-1189980000 d-1175464800 f-1159135200 d-1143410400 f-1126476000
    d-1111960800 f-1095631200 d-1080511200 f-1063576800 d-1049061600 f-1032127200 d-1017612000
    f-1001282400 d-986162400 f-969228000 d-950479200 f-942012000 d-733356000 f-719445600
    d-699487200 f-684972000 d-668037600 f-654732000 d-636588000 f-622072800 d-605743200
    f-590623200 d-574293600 f-558568800 d-542239200 f-527119200 d-512604000 f-496274400
    d-481154400 f-464220000 d-449704800 f-432165600 d-417650400 f-401320800 d-386200800
    f-369266400 d-354751200 f-337816800 d-323301600 f-306972000 d-291852000 f-276732000
    d-257983200 f-245282400 d-226533600 f-213228000 d-195084000 f-182383200 d-163634400
    f-150933600 d-132184800 f-119484000 d-100735200 f-88034400 d-68680800 f-59004000 d57722400
    f69818400 d89172000 f101268000 d120621600 f132717600 d152071200 f164167200 d183520800
    f196221600 d214970400 f227671200 d246420000 f259120800 d278474400 f290570400 d309924000
    f322020000 d341373600 f354675600 d372819600 f386125200 d404269200 f417574800 d435718800
    f449024400 d467773200 f481078800 d499222800 f512528400 d530672400 f543978000 d562122000
    f575427600 d593571600 f606877200 d625626000 f638326800 d657075600 f670381200 d688525200
    f701830800 d719974800 f733280400 d751424400 f764730000 d782874000 f796179600
    d814323600|1996 f3.25.6.3600 d10.25.6.3600"),
  ("Europe/Gibraltar",
    "-1284:LMT 0:GMT 3600:BST 7200:BDST 3600:CET 7200:CEST|b-2821649916 c-1691964000
    b-1680472800 c-1664143200 b-1650146400 c-1633903200 b-1617487200 c-1601848800 b-1586037600
    c-1570399200 b-1552168800 c-1538344800 b-1522533600 c-1507500000 b-1490565600 c-1473631200
    b-1460930400 c-1442786400 b-1428876000 c-1410732000 b-1396216800 c-1379282400 b-1364767200
    c-1348437600 b-1333317600 c-1315778400 b-1301263200 c-1284328800 b-1269813600 c-1253484000
    b-1238364000 c-1221429600 b-1206914400 c-1189980000 b-1175464800 c-1159135200 b-1143410400
    c-1126476000 b-1111960800 c-1095631200 b-1080511200 c-1063576800 b-1049061600 c-1032127200
    b-1017612000 c-1001282400 b-986162400 c-969228000 b-950479200 c-942012000 d-904518000
    c-896050800 d-875487600 c-864601200 d-844038000 c-832546800 d-812588400 c-798073200
    d-781052400 c-772066800 b-764805600 c-748476000 b-733356000 c-719445600 d-717030000
    c-706748400 b-699487200 c-687996000 b-668037600 c-654732000 b-636588000 c-622072800
    b-605743200 c-590623200 b-574293600 c-558568800 b-542239200 c-527119200 b-512604000
    c-496274400 b-481154400 c-464220000 b-449704800 c-432165600 b-417650400 e-401320800
    f386125200 e401850000 f417574800 e433299600 f449024400 e465354000 f481078800 e496803600
    f512528400 e528253200 f543978000 e559702800 f575427600 e591152400 f606877200 e622602000
    f638326800 e654656400 f670381200 e686106000 f701830800 e717555600 f733280400 e749005200
    f764730000 e780454800 f796179600 e811904400|1996 f3.25.6.3600 e10.25.6.3600"),
  ("Europe/Helsinki",
    "5989:LMT 5989:HMT 7200:EET 10800:EEST|b-2890258789 c-1535938789 d-875671200 c-859773600
    d354672000 c370396800 d386121600 c401846400 d417574800 c433299600 d449024400 c465354000
    d481078800 c496803600 d512528400 c528253200 d543978000 c559702800 d575427600 c591152400
    d606877200 c622602000 d638326800 c654656400 d670381200 c686106000 d701830800 c717555600
    d733280400 c749005200 d764730000 c780454800 d796179600 c811904400|1996 d3.25.6.3600
    c10.25.6.3600"),
  ("Europe/Istanbul",
    "6952:LMT 7016:IMT 7200:EET 10800:EEST 10800:+03 14400:+04|b-2840147752 c-1869875816
    d-1693706400 c-1680490800 d-1570413600 c-1552186800 d-1538359200 c-1522551600 d-1507514400
    c-1490583600 d-1440208800 c-1428030000 d-1409709600 c-1396494000 d-931053600 c-922676400
    d-917834400 c-892436400 d-875844000 c-764737200 d-744343200 c-733806000 d-716436000
    c-701924400 d-684986400 c-670474800 d-654141600 c-639025200 d-622087200 c-606970800
    d-590032800 c-575521200 d-235620000 c-194842800 d-177732000 c-165726000 d107910000
    c121215600 d133920000 c152665200 d164678400 c184114800 d196214400 c215564400 d228873600
    c245804400 d260323200 e267915600 f428454000 e433893600 c468111600 d482799600 c496710000
    d512521200 c528246000 d543970800 c559695600 d575420400 c591145200 d606870000 c622594800
    d638319600 c654649200 d670374000 c686098800 d701823600 c717548400 d733273200 c748998000
    d764118000 c780447600 d796172400 c811897200 d828226800 c846370800 d859676400 c877820400
    d891126000 c909270000 d922575600 c941324400 d954025200 c972774000 d985474800 c1004223600
    d1017529200 c1035673200 d1048978800 c1067122800 d1080428400 c1099177200 d1111878000
    c1130626800 d1143327600 c1162076400 d1174784400 c1193533200 d1206838800 c1224982800
    d1238288400 c1256432400 d1269738000 c1288486800 d1301274000 c1319936400 d1332637200
    c1351386000 d1364691600 c1382835600 d1396227600 c1414285200 d1427590800 c1446944400
    d1459040400 e1473195600|"),
  ("Europe/Kaliningrad",
    "4920:LMT 3600:CET 7200:CEST 7200:EET 10800:EEST 10800:MSK 14400:MSD 10800:+03|b-2422056120
    c-1693706400 b-1680483600 c-1663455600 b-1650150000 c-1632006000 b-1618700400 c-938905200
    b-857257200 c-844556400 b-828226800 c-812502000 b-796777200 c-781052400 d-780372000
    e-778730400 d-762663600 f-749095200 g354920400 f370728000 g386456400 f402264000 g417992400
    f433800000 g449614800 f465346800 g481071600 f496796400 g512521200 f528246000 g543970800
    f559695600 g575420400 f591145200 e606870000 d622598400 e638323200 d654652800 e670377600
    d686102400 e701827200 d717552000 e733276800 d749001600 e764726400 d780451200 e796176000
    d811900800 e828230400 d846374400 e859680000 d877824000 e891129600 d909273600 e922579200
    d941328000 e954028800 d972777600 e985478400 d1004227200 e1017532800 d1035676800 e1048982400
    d1067126400 e1080432000 d1099180800 e1111881600 d1130630400 e1143331200 d1162080000
    e1174780800 d1193529600 e1206835200 d1224979200 e1238284800 d1256428800 e1269734400
    d1288483200 h1301184000 d1414278000|"),
  ("Europe/Kirov",
    "11928:LMT 10800:+03 14400:+04 18000:+05 14400:MSD 10800:MSK 14400:MSK|b-1593820800
    c-1247540400 d354916800 c370724400 d386452800 c402260400 d417988800 c433796400 d449611200
    c465343200 d481068000 c496792800 d512517600 c528242400 d543967200 c559692000 d575416800
    c591141600 e606866400 f622594800 e638319600 f654649200 c670374000 e701820000 f717548400
    e733273200 f748998000 e764722800 f780447600 e796172400 f811897200 e828226800 f846370800
    e859676400 f877820400 e891126000 f909270000 e922575600 f941324400 e954025200 f972774000
    e985474800 f1004223600 e1017529200 f1035673200 e1048978800 f1067122800 e1080428400
    f1099177200 e1111878000 f1130626800 e1143327600 f1162076400 e1174777200 f1193526000
    e1206831600 f1224975600 e1238281200 f1256425200 e1269730800 f1288479600 g1301180400
    f1414274400|"),
  ("Europe/Kyiv",
    "7324:LMT 7324:KMT 7200:EET 10800:MSK 7200:CEST 3600:CET 14400:MSD 10800:EEST|b-2840148124
    c-1441159324 d-1247536800 e-892522800 f-857257200 e-844556400 f-828226800 d-825382800
    g354920400 d370728000 g386456400 d402264000 g417992400 d433800000 g449614800 d465346800
    g481071600 d496796400 g512521200 d528246000 g543970800 d559695600 g575420400 d591145200
    g606870000 d622594800 g638319600 h646783200 c686102400 h701827200 c717552000 h733276800
    c749001600 h764726400 c780451200 h796176000 c811900800 h828230400 c846378000|1997
    h3.25.6.3600 c10.25.6.3600"),
  ("Europe/Lisbon",
    "-2205:LMT 0:WET 3600:WEST 7200:WEMT 3600:CET 7200:CEST|b-1830384000 c-1689555600
    b-1677801600 c-1667433600 b-1647738000 c-1635897600 b-1616202000 c-1604361600 b-1584666000
    c-1572739200 b-1553043600 c-1541203200 b-1521507600 c-1442451600 b-1427677200 c-1379293200
    b-1364778000 c-1348448400 b-1333328400 c-1316394000 b-1301274000 c-1284339600 b-1269824400
    c-1221440400 b-1206925200 c-1191200400 b-1175475600 c-1127696400 b-1111971600 c-1096851600
    b-1080522000 c-1063587600 b-1049072400 c-1033347600 b-1017622800 c-1002502800 b-986173200
    c-969238800 b-950490000 c-942022800 b-922496400 c-906944400 b-891133200 c-877309200
    d-873684000 c-864007200 b-857955600 c-845859600 d-842839200 c-831348000 b-825901200
    c-814410000 d-810784800 c-799898400 b-794451600 c-782960400 d-779335200 c-768448800
    b-763002000 c-749091600 b-733366800 c-717631200 b-701906400 c-686181600 b-670456800
    c-654732000 b-639007200 c-623282400 b-607557600 c-591832800 b-575503200 c-559778400
    b-544053600 c-528328800 b-512604000 c-496879200 b-481154400 c-465429600 b-449704800
    c-433980000 b-417650400 c-401925600 b-386200800 c-370476000 b-354751200 c-339026400
    b-323301600 c-307576800 b-291852000 c-276127200 b-260402400 c-244677600 b-228348000
    c-212623200 b-196898400 c-181173600 b-165448800 c-149724000 b-133999200 c-118274400
    e-102549600 b212544000 c228268800 b243993600 c260326800 b276051600 c291776400 b307501200
    c323830800 b338950800 c354672000 b370396800 c386121600 b401846400 c417571200 b433296000
    c449020800 b465350400 c481075200 b496800000 c512528400 b528253200 c543978000 b559702800
    c575427600 b591152400 c606877200 b622602000 c638326800 b654656400 c670381200 b686106000
    c701830800 e717555600 f733280400 e749005200 f764730000 e780454800 f796179600
    e811904400|1996 c3.25.6.3600 b10.25.6.3600"),
  ("Europe/London",
    "-75:LMT 0:GMT 3600:BST 7200:BDST|b-3852662325 c-1691964000 b-1680472800 c-1664143200
    b-1650146400 c-1633903200 b-1617487200 c-1601848800 b-1586037600 c-1570399200 b-1552168800
    c-1538344800 b-1522533600 c-1507500000 b-1490565600 c-1473631200 b-1460930400 c-1442786400
    b-1428876000 c-1410732000 b-1396216800 c-1379282400 b-1364767200 c-1348437600 b-1333317600
    c-1315778400 b-1301263200 c-1284328800 b-1269813600 c-1253484000 b-1238364000 c-1221429600
    b-1206914400 c-1189980000 b-1175464800 c-1159135200 b-1143410400 c-1126476000 b-1111960800
    c-1095631200 b-1080511200 c-1063576800 b-1049061600 c-1032127200 b-1017612000 c-1001282400
    b-986162400 c-969228000 b-950479200 c-942012000 d-904518000 c-896050800 d-875487600
    c-864601200 d-844038000 c-832546800 d-812588400 c-798073200 d-781052400 c-772066800
    b-764805600 c-748476000 b-733356000 c-719445600 d-717030000 c-706748400 b-699487200
    c-687996000 b-668037600 c-654732000 b-636588000 c-622072800 b-605743200 c-590623200
    b-574293600 c-558568800 b-542239200 c-527119200 b-512604000 c-496274400 b-481154400
    c-464220000 b-449704800 c-432165600 b-417650400 c-401320800 b-386200800 c-369266400
    b-354751200 c-337816800 b-323301600 c-306972000 b-291852000 c-276732000 b-257983200
    c-245282400 b-226533600 c-213228000 b-195084000 c-182383200 b-163634400 c-150933600
    b-132184800 c-119484000 b-100735200 c-88034400 b-68680800 c-59004000 b57722400 c69818400
    b89172000 c101268000 b120621600 c132717600 b152071200 c164167200 b183520800 c196221600
    b214970400 c227671200 b246420000 c259120800 b278474400 c290570400 b309924000 c322020000
    b341373600 c354675600 b372819600 c386125200 b404269200 c417574800 b435718800 c449024400
    b467773200 c481078800 b499222800 c512528400 b530672400 c543978000 b562122000 c575427600
    b593571600 c606877200 b625626000 c638326800 b657075600 c670381200 b688525200 c701830800
    b719974800 c733280400 b751424400 c764730000 b782874000 c796179600 b814323600|1996
    c3.25.6.3600 b10.25.6.3600"),
  ("Europe/Madrid",
    "-884:LMT 0:WET 3600:WEST 7200:WEMT 3600:CET 7200:CEST|b-2177452800 c-1631926800
    b-1616889600 c-1601168400 b-1585353600 c-1442451600 b-1427673600 c-1379293200 b-1364774400
    c-1348448400 b-1333324800 c-1316390400 b-1301270400 c-1284339600 b-1269820800 c-1026954000
    b-1017619200 c-1001898000 d-999482400 c-986090400 b-954115200 e-940208400 f-873079200
    e-862621200 f-842839200 e-828320400 f-811389600 e-796870800 f-779940000 e-765421200
    f-748490400 e-733971600 f-652327200 e-639018000 f135122400 e150246000 f166572000 e181695600
    f196812000 e212540400 f228866400 e243990000 f260326800 e276051600 f291776400 e307501200
    f323830800 e338950800 f354675600 e370400400 f386125200 e401850000 f417574800 e433299600
    f449024400 e465354000 f481078800 e496803600 f512528400 e528253200 f543978000 e559702800
    f575427600 e591152400 f606877200 e622602000 f638326800 e654656400 f670381200 e686106000
    f701830800 e717555600 f733280400 e749005200 f764730000 e780454800 f796179600
    e811904400|1996 f3.25.6.3600 e10.25.6.3600"),
  ("Europe/Malta",
    "3484:LMT 3600:CET 7200:CEST|b-2403478684 c-1690765200 b-1680487200 c-1664758800
    b-1648951200 c-1635123600 b-1616896800 c-1604278800 b-1585533600 c-1571014800 b-1555293600
    c-932432400 b-857257200 c-844556400 b-828226800 c-812588400 b-798073200 c-781052400
    b-766717200 c-750898800 b-733359600 c-719456400 b-701917200 c-689209200 b-670460400
    c-114051600 b-103168800 c-81997200 b-71715600 c-50547600 b-40266000 c-18493200 b-8211600
    c12956400 b23238000 c43801200 b54687600 c75855600 b86742000 c102380400 b118105200
    c135730800 b148518000 c167187600 b180489600 c198637200 b211939200 c230086800 b243388800
    c261536400 b274838400 c292986000 b306288000 c323312400 b338342400 c354675600 b370400400
    c386125200 b401850000 c417574800 b433299600 c449024400 b465354000 c481078800 b496803600
    c512528400 b528253200 c543978000 b559702800 c575427600 b591152400 c606877200 b622602000
    c638326800 b654656400 c670381200 b686106000 c701830800 b717555600 c733280400 b749005200
    c764730000 b780454800 c796179600 b811904400|1996 c3.25.6.3600 b10.25.6.3600"),
  ("Europe/Minsk",
    "6616:LMT 6600:MMT 7200:EET 10800:MSK 7200:CEST 3600:CET 14400:MSD 10800:EEST
    10800:+03|b-2840147416 c-1441158600 d-1247536800 e-899780400 f-857257200 e-844556400
    f-828226800 e-812502000 d-804650400 g354920400 d370728000 g386456400 d402264000 g417992400
    d433800000 g449614800 d465346800 g481071600 d496796400 g512521200 d528246000 g543970800
    d559695600 g575420400 d591145200 g606870000 d622594800 h670374000 c686102400 h701827200
    c717552000 h733276800 c749001600 h764726400 c780451200 h796176000 c811900800 h828230400
    c846374400 h859680000 c877824000 h891129600 c909273600 h922579200 c941328000 h954028800
    c972777600 h985478400 c1004227200 h1017532800 c1035676800 h1048982400 c1067126400
    h1080432000 c1099180800 h1111881600 c1130630400 h1143331200 c1162080000 h1174780800
    c1193529600 h1206835200 c1224979200 h1238284800 c1256428800 h1269734400 c1288483200
    i1301184000|"),
  ("Europe/Moscow",
    "9017:LMT 9017:MMT 9079:MMT 12679:MST 16279:MDST 14400:MSD 10800:MSK 18000:+05 7200:EET
    10800:EEST 14400:MSK|b-2840149817 c-1688265017 d-1656819079 c-1641353479 e-1627965079
    d-1618716679 e-1596429079 f-1593820800 g-1589860800 f-1542427200 h-1539493200 f-1525323600
    g-1522728000 i-1491188400 g-1247536800 f354920400 g370728000 f386456400 g402264000
    f417992400 g433800000 f449614800 g465346800 f481071600 g496796400 f512521200 g528246000
    f543970800 g559695600 f575420400 g591145200 f606870000 g622594800 f638319600 g654649200
    j670374000 i686102400 g695779200 f701823600 g717548400 f733273200 g748998000 f764722800
    g780447600 f796172400 g811897200 f828226800 g846370800 f859676400 g877820400 f891126000
    g909270000 f922575600 g941324400 f954025200 g972774000 f985474800 g1004223600 f1017529200
    g1035673200 f1048978800 g1067122800 f1080428400 g1099177200 f1111878000 g1130626800
    f1143327600 g1162076400 f1174777200 g1193526000 f1206831600 g1224975600 f1238281200
    g1256425200 f1269730800 g1288479600 k1301180400 g1414274400|"),
  ("Europe/Paris",
    "561:LMT 561:PMT 0:WET 3600:WEST 7200:CEST 3600:CET 7200:WEMT|b-2486592561 c-1855958961
    d-1689814800 c-1680397200 d-1665363600 c-1648342800 d-1635123600 c-1616893200 d-1604278800
    c-1585443600 d-1574038800 c-1552266000 d-1539997200 c-1520557200 d-1507510800 c-1490576400
    d-1470618000 c-1459126800 d-1444006800 c-1427677200 d-1411952400 c-1396227600 d-1379293200
    c-1364778000 d-1348448400 c-1333328400 d-1316394000 c-1301274000 d-1284339600 c-1269824400
    d-1253494800 c-1238374800 d-1221440400 c-1206925200 d-1191200400 c-1175475600 d-1160355600
    c-1143421200 d-1127696400 c-1111971600 d-1096851600 c-1080522000 d-1063587600 c-1049072400
    d-1033347600 c-1017622800 d-1002502800 c-986173200 d-969238800 c-950490000 d-942012000
    e-932436000 f-857257200 e-844556400 f-828226800 e-812502000 g-800071200 d-796266000
    g-781052400 f-766623600 e196819200 f212540400 e228877200 f243997200 e260326800 f276051600
    e291776400 f307501200 e323830800 f338950800 e354675600 f370400400 e386125200 f401850000
    e417574800 f433299600 e449024400 f465354000 e481078800 f496803600 e512528400 f528253200
    e543978000 f559702800 e575427600 f591152400 e606877200 f622602000 e638326800 f654656400
    e670381200 f686106000 e701830800 f717555600 e733280400 f749005200 e764730000 f780454800
    e796179600 f811904400|1996 e3.25.6.3600 f10.25.6.3600"),
  ("Europe/Prague",
    "3464:LMT 3464:PMT 3600:CET 7200:CEST 0:GMT|b-3786829064 c-2469401864 d-1693706400
    c-1680483600 d-1663455600 c-1650150000 d-1632006000 c-1618700400 d-938905200 c-857257200
    d-844556400 c-828226800 d-812502000 c-796777200 d-781052400 c-765327600 d-746578800
    c-733359600 e-728517600 c-721260000 d-716425200 c-701910000 d-684975600 c-670460400
    d-654217200 c-639010800 d291776400 c307501200 d323830800 c338950800 d354675600 c370400400
    d386125200 c401850000 d417574800 c433299600 d449024400 c465354000 d481078800 c496803600
    d512528400 c528253200 d543978000 c559702800 d575427600 c591152400 d606877200 c622602000
    d638326800 c654656400 d670381200 c686106000 d701830800 c717555600 d733280400 c749005200
    d764730000 c780454800 d796179600 c811904400|1996 d3.25.6.3600 c10.25.6.3600"),
  ("Europe/Riga",
    "5794:LMT 5794:RMT 9394:LST 7200:EET 10800:MSK 7200:CEST 3600:CET 14400:MSD
    10800:EEST|b-2840146594 c-1632008194 b-1618702594 c-1601681794 b-1597275394 d-1377308194
    e-928029600 f-899521200 g-857257200 f-844556400 g-828226800 f-812502000 g-796777200
    e-795834000 h354920400 e370728000 h386456400 e402264000 h417992400 e433800000 h449614800
    e465346800 h481071600 e496796400 h512521200 e528246000 h543970800 e559695600 h575420400
    e591145200 i606870000 d622598400 i638323200 d654652800 i670377600 d686102400 i701827200
    d717552000 i733276800 d749001600 i764726400 d780451200 i796176000 d811900800 i828230400
    d843955200 i859683600 d877827600 i891133200 d909277200 i922582800 d941331600|2001
    i3.25.6.3600 d10.25.6.3600"),
  ("Europe/Rome",
    "2996:LMT 2996:RMT 3600:CET 7200:CEST|b-3252098996 c-2403565200 d-1690765200 c-1680487200
    d-1664758800 c-1648951200 d-1635123600 c-1616896800 d-1604278800 c-1585533600 d-1571014800
    c-1555293600 d-932432400 c-857257200 d-844556400 c-828226800 d-812502000 c-798073200
    d-781052400 c-766717200 d-750898800 c-733359600 d-719456400 c-701917200 d-689209200
    c-670460400 d-114051600 c-103168800 d-81997200 c-71715600 d-50547600 c-40266000 d-18493200
    c-8211600 d12956400 c23238000 d43801200 c54687600 d75855600 c86742000 d107910000 c118191600
    d138754800 c149641200 d170809200 c181090800 d202258800 c212540400 d233103600 c243990000
    d265158000 c276044400 d296607600 c307494000 d323830800 c338950800 d354675600 c370400400
    d386125200 c401850000 d417574800 c433299600 d449024400 c465354000 d481078800 c496803600
    d512528400 c528253200 d543978000 c559702800 d575427600 c591152400 d606877200 c622602000
    d638326800 c654656400 d670381200 c686106000 d701830800 c717555600 d733280400 c749005200
    d764730000 c780454800 d796179600 c811904400|1996 d3.25.6.3600 c10.25.6.3600"),
  ("Europe/Samara",
    "12020:LMT 10800:+03 14400:+04 18000:+05|b-1593820800 c-1247540400 d354916800 c370724400
    d386452800 c402260400 d417988800 c433796400 d449611200 c465343200 d481068000 c496792800
    d512517600 c528242400 d543967200 c559692000 d575416800 c591141600 b622594800 c638319600
    b654649200 c687916800 d701820000 c717544800 d733269600 c748994400 d764719200 c780444000
    d796168800 c811893600 d828223200 c846367200 d859672800 c877816800 d891122400 c909266400
    d922572000 c941320800 d954021600 c972770400 d985471200 c1004220000 d1017525600 c1035669600
    d1048975200 c1067119200 d1080424800 c1099173600 d1111874400 c1130623200 d1143324000
    c1162072800 d1174773600 c1193522400 d1206828000 c1224972000 d1238277600 c1256421600
    b1288479600 c1301180400|"),
  ("Europe/Saratov",
    "11058:LMT 10800:+03 14400:+04 18000:+05|b-1593820800 c-1247540400 d354916800 c370724400
    d386452800 c402260400 d417988800 c433796400 d449611200 c465343200 d481068000 c496792800
    d512517600 c528242400 d543967200 c559692000 b591145200 c606870000 b622594800 c638319600
    b654649200 c670374000 b717548400 c733273200 b748998000 c764722800 b780447600 c796172400
    b811897200 c828226800 b846370800 c859676400 b877820400 c891126000 b909270000 c922575600
    b941324400 c954025200 b972774000 c985474800 b1004223600 c1017529200 b1035673200 c1048978800
    b1067122800 c1080428400 b1099177200 c1111878000 b1130626800 c1143327600 b1162076400
    c1174777200 b1193526000 c1206831600 b1224975600 c1238281200 b1256425200 c1269730800
    b1288479600 c1301180400 b1414274400 c1480806000|"),
  ("Europe/Simferopol",
    "8184:LMT 8160:SMT 7200:EET 10800:MSK 7200:CEST 3600:CET 14400:MSD 10800:EEST
    14400:MSK|b-2840148984 c-1441160160 d-1247536800 e-888894000 f-857257200 e-844556400
    f-828226800 e-812502000 d-811648800 g354920400 d370728000 g386456400 d402264000 g417992400
    d433800000 g449614800 d465346800 g481071600 d496796400 g512521200 d528246000 g543970800
    d559695600 g575420400 d591145200 g606870000 d622594800 c646786800 h701827200 c717552000
    h733276800 c749001600 h764726400 g767739600 d780447600 g796172400 d811897200 g828219600
    d846374400 h859683600 c877827600 h891133200 c909277200 h922582800 c941331600 h954032400
    c972781200 h985482000 c1004230800 h1017536400 c1035680400 h1048986000 c1067130000
    h1080435600 c1099184400 h1111885200 c1130634000 h1143334800 c1162083600 h1174784400
    c1193533200 h1206838800 c1224982800 h1238288400 c1256432400 h1269738000 c1288486800
    h1301187600 c1319936400 h1332637200 c1351386000 h1364691600 c1382835600 i1396137600
    d1414274400|"),
  ("Europe/Sofia",
    "5596:LMT 7016:IMT 7200:EET 3600:CET 7200:CEST 10800:EEST|b-2840146396 c-2369527016
    d-857257200 e-844556400 d-828226800 e-812502000 d-796777200 c-781048800 f291762000
    c307576800 f323816400 c339026400 f355266000 c370393200 f386715600 c401846400 f417571200
    c433296000 f449020800 c465350400 f481075200 c496800000 f512524800 c528249600 f543974400
    c559699200 f575424000 c591148800 f606873600 c622598400 f638323200 c654652800 f670370400
    c686091600 f701820000 c717541200 f733269600 c748990800 f764719200 c780440400 f796168800
    c811890000 f828223200 c846363600|1997 f3.25.6.3600 c10.25.6.3600"),
  ("Europe/Tallinn",
    "5940:LMT 5940:TMT 3600:CET 7200:CEST 7200:EET 10800:MSK 14400:MSD 10800:EEST|b-2840146740
    c-1638322740 d-1632006000 c-1618700400 b-1593824400 e-1535938740 f-927943200 d-892954800
    c-857257200 d-844556400 c-828226800 d-812502000 f-797652000 g354920400 f370728000
    g386456400 f402264000 g417992400 f433800000 g449614800 f465346800 g481071600 f496796400
    g512521200 f528246000 g543970800 f559695600 g575420400 f591145200 h606870000 e622598400
    h638323200 e654652800 h670377600 e686102400 h701827200 e717552000 h733276800 e749001600
    h764726400 e780451200 h796176000 e811900800 h828230400 e846374400 h859680000 e877824000
    h891129600 e909277200 h922582800 e941331600|2002 h3.25.6.3600 e10.25.6.3600"),
  ("Europe/Tirane",
    "4760:LMT 3600:CET 7200:CEST|b-1767230360 c-932346000 b-857257200 c-844556400 b-843519600
    c136854000 b149896800 c168130800 b181432800 c199839600 b213141600 c231894000 b244591200
    c263257200 b276040800 c294706800 b307490400 c326156400 b339458400 c357087600 b370389600
    c389142000 b402444000 c419468400 b433807200 c449622000 b465354000 c481078800 b496803600
    c512528400 b528253200 c543978000 b559702800 c575427600 b591152400 c606877200 b622602000
    c638326800 b654656400 c670381200 b686106000 c701830800 b717555600 c733280400 b749005200
    c764730000 b780454800 c796179600 b811904400|1996 c3.25.6.3600 b10.25.6.3600"),
  ("Europe/Ulyanovsk",
    "11616:LMT 10800:+03 14400:+04 18000:+05 7200:+02|b-1593820800 c-1247540400 d354916800
    c370724400 d386452800 c402260400 d417988800 c433796400 d449611200 c465343200 d481068000
    c496792800 d512517600 c528242400 d543967200 c559692000 d575416800 c591141600 b622594800
    c638319600 b654649200 e686102400 b695779200 c701823600 b717548400 c733273200 b748998000
    c764722800 b780447600 c796172400 b811897200 c828226800 b846370800 c859676400 b877820400
    c891126000 b909270000 c922575600 b941324400 c954025200 b972774000 c985474800 b1004223600
    c1017529200 b1035673200 c1048978800 b1067122800 c1080428400 b1099177200 c1111878000
    b1130626800 c1143327600 b1162076400 c1174777200 b1193526000 c1206831600 b1224975600
    c1238281200 b1256425200 c1269730800 b1288479600 c1301180400 b1414274400 c1459033200|"),
  ("Europe/Vienna",
    "3921:LMT 3600:CET 7200:CEST|b-2422055121 c-1693706400 b-1680483600 c-1663455600
    b-1650150000 c-1632006000 b-1618700400 c-1569711600 b-1555801200 c-938905200 b-857257200
    c-844556400 b-828226800 c-812502000 b-796777200 c-781052400 b-780188400 c-748479600
    b-733273200 c-717634800 b-701910000 c-684975600 b-670460400 c323823600 b338940000
    c354675600 b370400400 c386125200 b401850000 c417574800 b433299600 c449024400 b465354000
    c481078800 b496803600 c512528400 b528253200 c543978000 b559702800 c575427600 b591152400
    c606877200 b622602000 c638326800 b654656400 c670381200 b686106000 c701830800 b717555600
    c733280400 b749005200 c764730000 b780454800 c796179600 b811904400|1996 c3.25.6.3600
    b10.25.6.3600"),
  ("Europe/Vilnius",
    "6076:LMT 5040:WMT 5736:KMT 3600:CET 7200:EET 10800:MSK 7200:CEST 14400:MSD
    10800:EEST|b-2840146876 c-1672536240 d-1585100136 e-1561251600 d-1553565600 f-928198800
    g-900126000 d-857257200 g-844556400 d-828226800 g-812502000 f-802144800 h354920400
    f370728000 h386456400 f402264000 h417992400 f433800000 h449614800 f465346800 h481071600
    f496796400 h512521200 f528246000 h543970800 f559695600 h575420400 f591145200 i606870000
    e622598400 i638323200 e654652800 i670377600 e686102400 i701827200 e717552000 i733276800
    e749001600 i764726400 e780451200 i796176000 e811900800 i828230400 e846374400 i859680000
    e877824000 g891133200 d909277200 g922582800 e941331600|2003 i3.25.6.3600 e10.25.6.3600"),
  ("Europe/Volgograd",
    "10660:LMT 10800:+03 14400:+04 18000:+05 14400:MSD 10800:MSK 14400:MSK|b-1577761060
    c-1247540400 d354916800 c370724400 d386452800 c402260400 d417988800 c433796400 d449611200
    c465343200 d481068000 c496792800 d512517600 c528242400 d543967200 c559692000 e575416800
    f591145200 e606870000 f622594800 e638319600 f654649200 c670374000 e701820000 f717548400
    e733273200 f748998000 e764722800 f780447600 e796172400 f811897200 e828226800 f846370800
    e859676400 f877820400 e891126000 f909270000 e922575600 f941324400 e954025200 f972774000
    e985474800 f1004223600 e1017529200 f1035673200 e1048978800 f1067122800 e1080428400
    f1099177200 e1111878000 f1130626800 e1143327600 f1162076400 e1174777200 f1193526000
    e1206831600 f1224975600 e1238281200 f1256425200 e1269730800 f1288479600 g1301180400
    f1414274400 c1540681200 f1609020000|"),
  ("Europe/Warsaw",
    "5040:LMT 5040:WMT 3600:CET 7200:CEST 7200:EET 10800:EEST|b-2840145840 c-1717032240
    d-1693706400 c-1680483600 d-1663455600 c-1650150000 d-1632006000 e-1618700400 f-1600473600
    e-1587168000 c-1501725600 d-931734000 c-857257200 d-844556400 c-828226800 d-812502000
    c-796608000 d-778726800 c-762660000 d-748486800 c-733273200 d-715215600 c-701910000
    d-684975600 c-670460400 d-654130800 c-639010800 d-397094400 c-386812800 d-371088000
    c-355363200 d-334195200 c-323308800 d-307584000 c-291859200 d-271296000 c-260409600
    d-239846400 c-228960000 d-208396800 c-197510400 d-176342400 c-166060800 d228873600
    c243993600 d260323200 c276048000 d291772800 c307497600 d323827200 c338947200 d354672000
    c370396800 d386121600 c401846400 d417571200 c433296000 d449020800 c465350400 d481075200
    c496800000 d512524800 c528249600 d543974400 c559699200 d575427600 c591152400 d606877200
    c622602000 d638326800 c654656400 d670381200 c686106000 d701830800 c717555600 d733280400
    c749005200 d764730000 c780454800 d796179600 c811904400|1996 d3.25.6.3600 c10.25.6.3600"),
  ("Europe/Zurich",
    "2048:LMT 1786:BMT 3600:CET 7200:CEST|b-3675198848 c-2385246586 d-904435200 c-891129600
    d-872985600 c-859680000 d354675600 c370400400 d386125200 c401850000 d417574800 c433299600
    d449024400 c465354000 d481078800 c496803600 d512528400 c528253200 d543978000 c559702800
    d575427600 c591152400 d606877200 c622602000 d638326800 c654656400 d670381200 c686106000
    d701830800 c717555600 d733280400 c749005200 d764730000 c780454800 d796179600
    c811904400|1996 d3.25.6.3600 c10.25.6.3600")]

end PathTemplate.Time.ZoneTable
