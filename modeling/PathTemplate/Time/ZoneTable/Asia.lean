/-
# Zones named for Asia

Key definitions: `asia`, the names of the zones with their records.
-/

namespace PathTemplate.Time.ZoneTable

/-- The records of the zones, by name. -/
def asia : List (String × String) := [
  ("Asia/Almaty",
    "18468:LMT 18000:+05 21600:+06 25200:+07|b-1441170468 c-1247547600 d354909600 c370717200
    d386445600 c402253200 d417981600 c433789200 d449604000 c465336000 d481060800 c496785600
    d512510400 c528235200 d543960000 c559684800 d575409600 c591134400 d606859200 c622584000
    d638308800 c654638400 b686091600 c695768400 d701812800 c717537600 d733262400 c748987200
    d764712000 c780436800 d796161600 c811886400 d828216000 c846360000 d859665600 c877809600
    d891115200 c909259200 d922564800 c941313600 d954014400 c972763200 d985464000 c1004212800
    d1017518400 c1035662400 d1048968000 c1067112000 d1080417600 c1099166400 b1709229600|"),
  ("Asia/Amman",
    "8624:LMT 7200:EET 10800:EEST 10800:+03|b-1230776624 c108165600 b118270800 c136591200
    b149806800 c168127200 b181342800 c199749600 b215643600 c231285600 b244501200 c262735200
    b275950800 c481154400 b496962000 c512949600 b528670800 c544399200 b560120400 c575848800
    b592174800 c610581600 b623624400 c641167200 b655074000 c671839200 b685918800 c702856800
    b717973200 c733701600 b749422800 c765151200 b779662800 c797205600 b811116000 c828655200
    b843170400 c860104800 b874620000 c891554400 b906069600 c930780000 b938124000 c954367200
    b970178400 c985816800 b1001628000 c1017352800 b1033077600 c1048802400 b1066946400
    c1080252000 b1097791200 c1112306400 b1128031200 c1143756000 b1161900000 c1175205600
    b1193349600 c1206655200 b1225404000 c1238104800 b1256853600 c1269554400 b1288303200
    c1301608800 b1319752800 c1333058400 b1387486800 c1395957600 b1414706400 c1427407200
    b1446156000 c1459461600 b1477605600 c1490911200 b1509055200 c1522360800 b1540504800
    c1553810400 b1571954400 c1585260000 b1604008800 c1616709600 b1635458400 c1645740000
    d1666908000|"),
  ("Asia/Anadyr",
    "42596:LMT 43200:+12 46800:+13 50400:+14 39600:+11|b-1441194596 c-1247572800 d354884400
    c370692000 b402231600 c417960000 b433767600 c449582400 b465314400 c481039200 b496764000
    c512488800 b528213600 c543938400 b559663200 c575388000 b591112800 c606837600 b622562400
    c638287200 b654616800 e686070000 b695746800 c701791200 b717516000 c733240800 b748965600
    c764690400 b780415200 c796140000 b811864800 c828194400 b846338400 c859644000 b877788000
    c891093600 b909237600 c922543200 b941292000 c953992800 b972741600 c985442400 b1004191200
    c1017496800 b1035640800 c1048946400 b1067090400 c1080396000 b1099144800 c1111845600
    b1130594400 c1143295200 b1162044000 c1174744800 b1193493600 c1206799200 b1224943200
    c1238248800 b1256392800 e1288450800 b1301151600|"),
  ("Asia/Aqtau",
    "12064:LMT 14400:+04 18000:+05 21600:+06|b-1441164064 c-1247544000 d370724400 c402256800
    d417985200 c433792800 d449607600 c465339600 d481064400 c496789200 d512514000 c528238800
    d543963600 c559688400 d575413200 c591138000 d606862800 c622587600 d638312400 c654642000
    b686095200 c695772000 d701816400 c717541200 d733266000 c748990800 d764715600 b780440400
    c796168800 b811893600 c828223200 b846367200 c859672800 b877816800 c891122400 b909266400
    c922572000 b941320800 c954021600 b972770400 c985471200 b1004220000 c1017525600 b1035669600
    c1048975200 b1067119200 c1080424800|"),
  ("Asia/Aqtobe",
    "13720:LMT 14400:+04 18000:+05 21600:+06|b-1441165720 c-1247544000 d354913200 c402256800
    d417985200 c433792800 d449607600 c465339600 d481064400 c496789200 d512514000 c528238800
    d543963600 c559688400 d575413200 c591138000 d606862800 c622587600 d638312400 c654642000
    b686095200 c695772000 d701816400 c717541200 d733266000 c748990800 d764715600 c780440400
    d796165200 c811890000 d828219600 c846363600 d859669200 c877813200 d891118800 c909262800
    d922568400 c941317200 d954018000 c972766800 d985467600 c1004216400 d1017522000 c1035666000
    d1048971600 c1067115600 d1080421200 c1099170000|"),
  ("Asia/Ashgabat",
    "14012:LMT 14400:+04 18000:+05 21600:+06|b-1441166012 c-1247544000 d354913200 c370720800
    d386449200 c402256800 d417985200 c433792800 d449607600 c465339600 d481064400 c496789200
    d512514000 c528238800 d543963600 c559688400 d575413200 c591138000 d606862800 c622587600
    d638312400 c654642000 b686095200 c695772000|"),
  ("Asia/Atyrau",
    "12464:LMT 10800:+03 18000:+05 21600:+06 14400:+04|b-1441164464 c-1247540400 d370724400
    c402256800 d417985200 c433792800 d449607600 c465339600 d481064400 c496789200 d512514000
    c528238800 d543963600 c559688400 d575413200 c591138000 d606862800 c622587600 d638312400
    c654642000 e686095200 c695772000 d701816400 c717541200 d733266000 c748990800 d764715600
    c780440400 d796165200 c811890000 d828219600 c846363600 d859669200 c877813200 d891118800
    c909262800 e941320800 c954021600 e972770400 c985471200 e1004220000 c1017525600 e1035669600
    c1048975200 e1067119200 c1080424800|"),
  ("Asia/Baghdad",
    "10660:LMT 10656:BMT 10800:+03 14400:+04|b-2524532260 c-1641005856 d389048400 c402264000
    d417906000 c433800000 d449614800 c465422400 d481150800 c496792800 d512517600 c528242400
    d543967200 c559692000 d575416800 c591141600 d606866400 c622591200 d638316000 c654645600
    d670464000 c686275200 d702086400 c717897600 d733622400 c749433600 d765158400 c780969600
    d796694400 c812505600 d828316800 c844128000 d859852800 c875664000 d891388800 c907200000
    d922924800 c938736000 d954547200 c970358400 d986083200 c1001894400 d1017619200 c1033430400
    d1049155200 c1064966400 d1080777600 c1096588800 d1112313600 c1128124800 d1143849600
    c1159660800 d1175385600 c1191196800|"),
  ("Asia/Baku",
    "11964:LMT 10800:+03 14400:+04 18000:+05|b-1441163964 c-405140400 d354916800 c370724400
    d386452800 c402260400 d417988800 c433796400 d449611200 c465343200 d481068000 c496792800
    d512517600 c528242400 d543967200 c559692000 d575416800 c591141600 d606866400 c622591200
    d638316000 c654645600 b686098800 c701823600 d828234000 c846378000 d859680000 c877824000
    d891129600 c909273600 d922579200 c941328000 d954028800 c972777600 d985478400 c1004227200
    d1017532800 c1035676800 d1048982400 c1067126400 d1080432000 c1099180800 d1111881600
    c1130630400 d1143331200 c1162080000 d1174780800 c1193529600 d1206835200 c1224979200
    d1238284800 c1256428800 d1269734400 c1288483200 d1301184000 c1319932800 d1332633600
    c1351382400 d1364688000 c1382832000 d1396137600 c1414281600 d1427587200 c1445731200|"),
  ("Asia/Bangkok",
    "24124:LMT 24124:BMT 25200:+07|b-2840164924 c-1570084924|"),
  ("Asia/Barnaul",
    "20100:LMT 21600:+06 25200:+07 28800:+08|b-1579844100 c-1247551200 d354906000 c370713600
    d386442000 c402249600 d417978000 c433785600 d449600400 c465332400 d481057200 c496782000
    d512506800 c528231600 d543956400 c559681200 d575406000 c591130800 d606855600 c622580400
    d638305200 c654634800 b686088000 c695764800 d701809200 c717534000 d733258800 c748983600
    d764708400 c780433200 d796158000 c801590400 b811886400 c828216000 b846360000 c859665600
    b877809600 c891115200 b909259200 c922564800 b941313600 c954014400 b972763200 c985464000
    b1004212800 c1017518400 b1035662400 c1048968000 b1067112000 c1080417600 b1099166400
    c1111867200 b1130616000 c1143316800 b1162065600 c1174766400 b1193515200 c1206820800
    b1224964800 c1238270400 b1256414400 c1269720000 b1288468800 c1301169600 b1414263600
    c1459022400|"),
  ("Asia/Beirut",
    "8520:LMT 7200:EET 10800:EEST|b-2840149320 c-1570413600 b-1552186800 c-1538359200
    b-1522551600 c-1507514400 b-1490583600 c-1473645600 b-1460948400 c-399866400 b-386650800
    c-368330400 b-355114800 c-336794400 b-323578800 c-305172000 b-291956400 c-273636000
    b-260420400 c78012000 b86734800 c105055200 b118270800 c136591200 b149806800 c168127200
    b181342800 c199749600 b212965200 c231285600 b244501200 c262735200 b275950800 c452210400
    b466722000 c483746400 b498258000 c515282400 b529794000 c546818400 b561330000 c581119200
    b592952400 c610754400 b624488400 c641512800 b656024400 c673048800 b687560400 c704671200
    b718146000 c733269600 b748990800 c764719200 b780440400 c796168800 b811890000 c828223200
    b843944400 c859672800 b875394000 c891122400 b906843600|1999 c3.25.6.-7200 b10.25.6.-10800"),
  ("Asia/Bishkek",
    "17904:LMT 18000:+05 21600:+06 25200:+07|b-1441169904 c-1247547600 d354909600 c370717200
    d386445600 c402253200 d417981600 c433789200 d449604000 c465336000 d481060800 c496785600
    d512510400 c528235200 d543960000 c559684800 d575409600 c591134400 d606859200 c622584000
    d638308800 c654638400 b683582400 c703018800 b717530400 c734468400 b748980000 c765918000
    b780429600 c797367600 b811879200 c828817200 b843933600 c859671000 b877811400 c891120600
    b909261000 c922570200 b941315400 c954019800 b972765000 c985469400 b1004214600 c1017523800
    b1035664200 c1048973400 b1067113800 c1080423000 b1099168200 c1111872600|"),
  ("Asia/Chita",
    "27232:LMT 28800:+08 32400:+09 36000:+10|b-1579419232 c-1247558400 d354898800 c370706400
    d386434800 c402242400 d417970800 c433778400 d449593200 c465325200 d481050000 c496774800
    d512499600 c528224400 d543949200 c559674000 d575398800 c591123600 d606848400 c622573200
    d638298000 c654627600 b686080800 c695757600 d701802000 c717526800 d733251600 c748976400
    d764701200 c780426000 d796150800 c811875600 d828205200 c846349200 d859654800 c877798800
    d891104400 c909248400 d922554000 c941302800 d954003600 c972752400 d985453200 c1004202000
    d1017507600 c1035651600 d1048957200 c1067101200 d1080406800 c1099155600 d1111856400
    c1130605200 d1143306000 c1162054800 d1174755600 c1193504400 d1206810000 c1224954000
    d1238259600 c1256403600 d1269709200 c1288458000 d1301158800 b1414252800 c1459015200|"),
  ("Asia/Colombo",
    "19164:LMT 19172:MMT 19800:+0530 21600:+06 23400:+0630|b-2840159964 c-2019705572 d-883287000
    e-862639200 c-764051400 e832962600 d846266400 c1145039400|"),
  ("Asia/Damascus",
    "8712:LMT 7200:EET 10800:EEST 10800:+03|b-1577931912 c-1568592000 b-1554080400 c-1537142400
    b-1522630800 c-1505692800 b-1491181200 c-1474243200 b-1459126800 c-242265600 b-228877200
    c-210556800 b-197427600 c-178934400 b-165718800 c-147398400 b-134269200 c-116467200
    b-102646800 c-84326400 b-71110800 c-52704000 b-39488400 c-21168000 b-7952400 c10368000
    b23583600 c41904000 b55119600 c73526400 b86742000 c105062400 b118278000 c136598400
    b149814000 c168134400 b181350000 c199756800 b212972400 c231292800 b241916400 c262828800
    b273452400 c418694400 b433810800 c450316800 b465433200 c508896000 b529196400 c541555200
    b562633200 c574387200 b594255600 c607305600 b623199600 c638928000 b654649200 c670456800
    b686264400 c702684000 b717886800 c733096800 b748904400 c765151200 b780958800 c796687200
    b812494800 c828309600 b844117200 c859759200 b875653200 c891208800 b907189200 c922917600
    b938725200 c954540000 b970347600 c986076000 b1001883600 c1017612000 b1033419600 c1049148000
    b1064955600 c1080770400 b1096578000 c1112306400 b1128114000 c1143842400 b1158872400
    c1175205600 b1193950800 c1207260000 b1225486800 c1238104800 b1256850000 c1270159200
    b1288299600 c1301608800 b1319749200 c1333058400 b1351198800 c1364508000 b1382648400
    c1395957600 b1414702800 c1427407200 b1446152400 c1458856800 b1477602000 c1490911200
    b1509051600 c1522360800 b1540501200 c1553810400 b1571950800 c1585260000 b1604005200
    c1616709600 b1635454800 c1648159200 d1666904400|"),
  ("Asia/Dhaka",
    "21700:LMT 21200:HMT 23400:+0630 19800:+0530 21600:+06 25200:+07|b-2524543300 c-891582800
    d-872058600 c-862637400 e-576138600 f1245430800 e1262278800|"),
  ("Asia/Dili",
    "30140:LMT 28800:+08 32400:+09|b-1830412800 c-879152400 b199897200 c969120000|"),
  ("Asia/Dubai",
    "13272:LMT 14400:+04|b-1577936472|"),
  ("Asia/Dushanbe",
    "16512:LMT 18000:+05 21600:+06 25200:+07|b-1441168512 c-1247547600 d354909600 c370717200
    d386445600 c402253200 d417981600 c433789200 d449604000 c465336000 d481060800 c496785600
    d512510400 c528235200 d543960000 c559684800 d575409600 c591134400 d606859200 c622584000
    d638308800 c654638400 b684363600|"),
  ("Asia/Famagusta",
    "8148:LMT 7200:EET 10800:EEST 10800:+03|b-1518920148 c166572000 b182293200 c200959200
    b213829200 c228866400 b243982800 c260316000 b276123600 c291765600 b307486800 c323820000
    b338936400 c354664800 b370386000 c386114400 b401835600 c417564000 b433285200 c449013600
    b465339600 c481068000 b496789200 c512517600 b528238800 c543967200 b559688400 c575416800
    b591138000 c606866400 b622587600 c638316000 b654642000 c670370400 b686091600 c701820000
    b717541200 c733269600 b748990800 c764719200 b780440400 c796168800 b811890000 c828223200
    b843944400 c859672800 b875394000 c891122400 b909277200 c922582800 b941331600 c954032400
    b972781200 c985482000 b1004230800 c1017536400 b1035680400 c1048986000 b1067130000
    c1080435600 b1099184400 c1111885200 b1130634000 c1143334800 b1162083600 c1174784400
    b1193533200 c1206838800 b1224982800 c1238288400 b1256432400 c1269738000 b1288486800
    c1301187600 b1319936400 c1332637200 b1351386000 c1364691600 b1382835600 c1396141200
    b1414285200 c1427590800 b1445734800 c1459040400 d1473282000 b1509238800|2018 c3.25.6.3600
    b10.25.6.3600"),
  ("Asia/Gaza",
    "8272:LMT 7200:EET 10800:EEST 7200:IST 10800:IDT|b-2185409872 c-933638400 b-923097600
    c-919036800 b-857347200 c-844300800 b-825811200 c-812678400 b-794188800 c-779846400
    b-762652800 c-748310400 b-731116800 c-399088800 b-386650800 c-368330400 b-355114800
    c-336790800 b-323654400 c-305168400 b-292032000 c-273632400 b-260496000 c-242096400
    b-228960000 c-210560400 b-197424000 c-178938000 b-165801600 c-147402000 b-134265600
    c-115866000 b-102643200 c-84330000 d-81313200 e142380000 d150843600 e167176800 d178664400
    e334101600 d337730400 e452642400 d462319200 e482277600 d494370000 e516751200 d526424400
    e545436000 d558478800 e576626400 d589323600 e609890400 d620773200 e638316000 d651618000
    e669765600 d683672400 e701820000 d715726800 e733701600 d747176400 e765151200 d778021200
    e796600800 d810075600 b820447200 c828655200 b843170400 c860104800 b874620000 c891554400
    b906069600 c924213600 b939934800 c956268000 b971989200 c987717600 b1003438800 c1019167200
    b1034888400 c1050616800 b1066338000 c1082066400 b1096581600 c1113516000 b1128380400
    c1143842400 b1158872400 c1175378400 b1189638000 c1206655200 b1219957200 c1238104800
    b1252015200 c1269640860 b1281474000 c1301608860 b1312146000 c1333058400 b1348178400
    c1364508000 b1380229200 c1395957600 b1414098000 c1427493600 b1445551200 c1458946800
    b1477692000 c1490396400 b1509141600 c1521846000 b1540591200 c1553810400 b1572037200
    c1585346400 b1603490400 c1616796000 b1635458400 c1648332000 b1666998000 c1682726400
    b1698447600 c1713571200 b1729897200 c1744416000 b1761346800 c1774656000 b1792796400
    c1806105600 b1824850800 c1837555200 b1856300400 c1869004800 b1887750000 c1901059200
    b1919199600 c1932508800 b1950649200 c1963958400 b1982703600 c1995408000 b2014153200
    c2026857600 b2045602800 c2058307200 b2077052400 c2090361600 b2107897200 c2121811200
    b2138742000 c2153260800 b2168982000 c2184710400 b2199826800 c2216160000 b2230066800
    c2234304000 b2234905200 c2248214400 b2260911600 c2264544000 b2266354800 c2279664000
    b2291756400 c2295388800 b2297804400 c2311113600 b2321996400 c2326233600 b2329254000
    c2342563200 b2352841200 c2356473600 b2361308400 c2374012800 b2383686000 c2387318400
    b2392758000 c2405462400 b2413926000 c2418163200 b2424207600 c2437516800 b2444770800
    c2448403200 b2455657200 c2468966400 b2475010800 c2479248000 b2487106800 c2500416000
    b2505855600 c2509488000 b2519161200 c2531865600 b2536700400 c2540332800 b2550610800
    c2563315200 b2566940400 c2571177600 b2582060400 c2595369600 b2597785200 c2601417600
    b2613510000 c2626819200 b2628025200 c2632262400 b2644959600 c2658268800 b2658870000
    c2663107200 b2676409200 c2693347200 b2708463600 c2724192000 b2739913200 c2754432000
    b2771362800 c2785276800 b2802812400 c2816121600 b2834262000 c2847571200 b2866316400
    c2879020800 b2897766000 c2910470400 b2929215600 c2941920000 b2960665200 c2973974400
    b2992114800 c3005424000 b3023564400 c3036873600 b3055618800 c3068323200 b3087068400
    c3099772800 b3117913200 c3131827200 b3148758000 c3163276800 b3179602800 c3194726400
    b3209842800 c3226176000 b3240687600 c3244320000 b3244921200 c3257625600 b3271532400
    c3275164800 b3276370800 c3289075200 b3301772400 c3306009600 b3307820400 c3321129600
    b3332617200 c3336249600 b3339270000 c3352579200 b3362857200 c3367094400 b3370719600
    c3384028800 b3393702000 c3397939200 b3402774000 c3415478400 b3424546800 c3428179200
    b3434223600 c3446928000 b3454786800 c3459024000 b3465673200 c3478982400 b3485631600
    c3489264000 b3497122800 c3510432000 b3516476400 c3520108800 b3528572400 c3541881600
    b3546716400 c3550953600 b3560022000 c3573331200 b3577561200 c3581193600 b3592076400
    c3604780800 b3607801200 c3612038400 b3623526000 c3636230400 b3638646000 c3642883200
    b3654975600 c3668284800 b3669490800 c3673123200 b3686425200 c3699734400 b3717874800
    c3731184000 b3749929200 c3762633600 b3781378800 c3794083200 b3812828400 c3825532800
    b3844278000 c3857587200 b3875727600 c3889036800 b3907177200 c3920486400 b3939231600
    c3951936000 b3970681200 c3983385600 b4002130800 c4015440000 b4033580400 c4046889600
    b4065030000 c4078339200 b4096479600|"),
  ("Asia/Hebron",
    "8423:LMT 7200:EET 10800:EEST 7200:IST 10800:IDT|b-2185410023 c-933638400 b-923097600
    c-919036800 b-857347200 c-844300800 b-825811200 c-812678400 b-794188800 c-779846400
    b-762652800 c-748310400 b-731116800 c-399088800 b-386650800 c-368330400 b-355114800
    c-336790800 b-323654400 c-305168400 b-292032000 c-273632400 b-260496000 c-242096400
    b-228960000 c-210560400 b-197424000 c-178938000 b-165801600 c-147402000 b-134265600
    c-115866000 b-102643200 c-84330000 d-81313200 e142380000 d150843600 e167176800 d178664400
    e334101600 d337730400 e452642400 d462319200 e482277600 d494370000 e516751200 d526424400
    e545436000 d558478800 e576626400 d589323600 e609890400 d620773200 e638316000 d651618000
    e669765600 d683672400 e701820000 d715726800 e733701600 d747176400 e765151200 d778021200
    e796600800 d810075600 b820447200 c828655200 b843170400 c860104800 b874620000 c891554400
    b906069600 c924213600 b939934800 c956268000 b971989200 c987717600 b1003438800 c1019167200
    b1034888400 c1050616800 b1066338000 c1082066400 b1096581600 c1113516000 b1128380400
    c1143842400 b1158872400 c1175378400 b1189638000 c1206655200 b1220216400 c1238104800
    b1252015200 c1269554400 b1281474000 c1301608860 b1312146000 c1314655200 b1317330000
    c1333058400 b1348178400 c1364508000 b1380229200 c1395957600 b1414098000 c1427493600
    b1445551200 c1458946800 b1477692000 c1490396400 b1509141600 c1521846000 b1540591200
    c1553810400 b1572037200 c1585346400 b1603490400 c1616796000 b1635458400 c1648332000
    b1666998000 c1682726400 b1698447600 c1713571200 b1729897200 c1744416000 b1761346800
    c1774656000 b1792796400 c1806105600 b1824850800 c1837555200 b1856300400 c1869004800
    b1887750000 c1901059200 b1919199600 c1932508800 b1950649200 c1963958400 b1982703600
    c1995408000 b2014153200 c2026857600 b2045602800 c2058307200 b2077052400 c2090361600
    b2107897200 c2121811200 b2138742000 c2153260800 b2168982000 c2184710400 b2199826800
    c2216160000 b2230066800 c2234304000 b2234905200 c2248214400 b2260911600 c2264544000
    b2266354800 c2279664000 b2291756400 c2295388800 b2297804400 c2311113600 b2321996400
    c2326233600 b2329254000 c2342563200 b2352841200 c2356473600 b2361308400 c2374012800
    b2383686000 c2387318400 b2392758000 c2405462400 b2413926000 c2418163200 b2424207600
    c2437516800 b2444770800 c2448403200 b2455657200 c2468966400 b2475010800 c2479248000
    b2487106800 c2500416000 b2505855600 c2509488000 b2519161200 c2531865600 b2536700400
    c2540332800 b2550610800 c2563315200 b2566940400 c2571177600 b2582060400 c2595369600
    b2597785200 c2601417600 b2613510000 c2626819200 b2628025200 c2632262400 b2644959600
    c2658268800 b2658870000 c2663107200 b2676409200 c2693347200 b2708463600 c2724192000
    b2739913200 c2754432000 b2771362800 c2785276800 b2802812400 c2816121600 b2834262000
    c2847571200 b2866316400 c2879020800 b2897766000 c2910470400 b2929215600 c2941920000
    b2960665200 c2973974400 b2992114800 c3005424000 b3023564400 c3036873600 b3055618800
    c3068323200 b3087068400 c3099772800 b3117913200 c3131827200 b3148758000 c3163276800
    b3179602800 c3194726400 b3209842800 c3226176000 b3240687600 c3244320000 b3244921200
    c3257625600 b3271532400 c3275164800 b3276370800 c3289075200 b3301772400 c3306009600
    b3307820400 c3321129600 b3332617200 c3336249600 b3339270000 c3352579200 b3362857200
    c3367094400 b3370719600 c3384028800 b3393702000 c3397939200 b3402774000 c3415478400
    b3424546800 c3428179200 b3434223600 c3446928000 b3454786800 c3459024000 b3465673200
    c3478982400 b3485631600 c3489264000 b3497122800 c3510432000 b3516476400 c3520108800
    b3528572400 c3541881600 b3546716400 c3550953600 b3560022000 c3573331200 b3577561200
    c3581193600 b3592076400 c3604780800 b3607801200 c3612038400 b3623526000 c3636230400
    b3638646000 c3642883200 b3654975600 c3668284800 b3669490800 c3673123200 b3686425200
    c3699734400 b3717874800 c3731184000 b3749929200 c3762633600 b3781378800 c3794083200
    b3812828400 c3825532800 b3844278000 c3857587200 b3875727600 c3889036800 b3907177200
    c3920486400 b3939231600 c3951936000 b3970681200 c3983385600 b4002130800 c4015440000
    b4033580400 c4046889600 b4065030000 c4078339200 b4096479600|"),
  ("Asia/Ho_Chi_Minh",
    "25590:LMT 25590:PLMT 25200:+07 28800:+08 32400:+09|b-2004073590 c-1851577590 d-852105600
    e-782643600 c-767869200 d-718095600 c-457772400 d-315648000 c171820800|"),
  ("Asia/Hong_Kong",
    "27402:LMT 28800:HKT 32400:HKST 30600:HKWT 32400:JST|b-2056690800 c-900910800 d-891579600
    e-884248200 b-761209200 c-747907200 b-728541000 c-717049800 b-697091400 c-683785800
    b-668061000 c-654755400 b-636611400 c-623305800 b-605161800 c-591856200 b-573712200
    c-559801800 b-541657800 c-528352200 b-510211800 c-498112200 b-478762200 c-466662600
    b-446707800 c-435213000 b-415258200 c-403158600 b-383808600 c-371709000 b-352359000
    c-340259400 b-320909400 c-308809800 b-288855000 c-277360200 b-257405400 c-245910600
    b-225955800 c-213856200 b-194506200 c-182406600 b-163056600 c-148537800 b-132816600
    c-117088200 b-101367000 c-85638600 b-69312600 c-53584200 b-37863000 c-22134600 b-6413400
    c9315000 b25036200 c40764600 b56485800 c72214200 b88540200 c104268600 b119989800 c126041400
    b151439400 c167167800 b182889000 c198617400 b214338600 c295385400 b309292200|"),
  ("Asia/Hovd",
    "21996:LMT 21600:+06 25200:+07 28800:+08|b-2032927596 c252439200 d417978000 c433785600
    d449600400 c465321600 d481050000 c496771200 d512499600 c528220800 d543949200 c559670400
    d575398800 c591120000 d606848400 c622569600 d638298000 c654624000 d670352400 c686073600
    d701802000 c717523200 d733251600 c748972800 d764701200 c780422400 d796150800 c811872000
    d828205200 c843926400 d859654800 c875376000 d891104400 c906825600 d988398000 c1001700000
    d1017428400 c1033149600 d1048878000 c1064599200 d1080327600 c1096048800 d1111777200
    c1127498400 d1143226800 c1159552800 d1427482800 c1443196800 d1458932400 c1474646400|"),
  ("Asia/Irkutsk",
    "25025:LMT 25025:IMT 25200:+07 28800:+08 32400:+09|b-2840165825 c-1575874625 d-1247554800
    e354902400 d370710000 e386438400 d402246000 e417974400 d433782000 e449596800 d465328800
    e481053600 d496778400 e512503200 d528228000 e543952800 d559677600 e575402400 d591127200
    e606852000 d622576800 e638301600 d654631200 c686084400 d695761200 e701805600 d717530400
    e733255200 d748980000 e764704800 d780429600 e796154400 d811879200 e828208800 d846352800
    e859658400 d877802400 e891108000 d909252000 e922557600 d941306400 e954007200 d972756000
    e985456800 d1004205600 e1017511200 d1035655200 e1048960800 d1067104800 e1080410400
    d1099159200 e1111860000 d1130608800 e1143309600 d1162058400 e1174759200 d1193508000
    e1206813600 d1224957600 e1238263200 d1256407200 e1269712800 d1288461600 e1301162400
    d1414256400|"),
  ("Asia/Jakarta",
    "25632:LMT 25632:BMT 26400:+0720 27000:+0730 32400:+09 28800:+08 25200:WIB|b-3231299232
    c-1451719200 d-1172906400 e-876641400 d-766054800 f-683883000 d-620812800 g-189415800|"),
  ("Asia/Jayapura",
    "33768:LMT 32400:+09 34200:+0930 32400:WIT|b-1172913768 c-799491600 d-189423000|"),
  ("Asia/Jerusalem",
    "8454:LMT 8440:JMT 7200:IST 10800:IDT 14400:IDDT|b-2840149254 c-1641003640 d-933638400
    c-923097600 d-919036800 c-857347200 d-844300800 c-825811200 d-812678400 c-794188800
    d-779846400 c-762652800 d-748310400 c-731116800 e-681955200 d-673228800 c-667958400
    d-652320000 c-636422400 d-622080000 c-608947200 d-591840000 c-572486400 d-558576000
    c-542851200 d-527731200 c-514425600 d-490838400 c-482976000 d-459388800 c-451526400
    d-428544000 c-418262400 d-400118400 c-387417600 d142380000 c150843600 d167176800 c178664400
    d334101600 c337730400 d452642400 c462319200 d482277600 c494370000 d516751200 c526424400
    d545436000 c558478800 d576626400 c589323600 d609890400 c620773200 d638316000 c651618000
    d669765600 c683672400 d701820000 c715726800 d733701600 c747176400 d765151200 c778021200
    d796600800 c810075600 d826840800 c842821200 d858895200 c874184400 d890344800 c905029200
    d923011200 c936313200 d955670400 c970783200 d986770800 c1001282400 d1017356400 c1033941600
    d1048806000 c1065132000 d1081292400 c1095804000 d1112313600 c1128812400 d1143763200
    c1159657200 d1175212800 c1189897200 d1206662400 c1223161200 d1238112000 c1254006000
    d1269561600 c1284246000 d1301616000 c1317510000 d1333065600 c1348354800|2013 d3.23.4.0
    c10.25.6.-3600"),
  ("Asia/Kabul",
    "16608:LMT 14400:+04 16200:+0430|b-2524538208 c-788932800|"),
  ("Asia/Kamchatka",
    "38076:LMT 39600:+11 43200:+12 46800:+13|b-1487759676 c-1247569200 d354888000 c370695600
    d386424000 c402231600 d417960000 c433767600 d449582400 c465314400 d481039200 c496764000
    d512488800 c528213600 d543938400 c559663200 d575388000 c591112800 d606837600 c622562400
    d638287200 c654616800 b686070000 c695746800 d701791200 c717516000 d733240800 c748965600
    d764690400 c780415200 d796140000 c811864800 d828194400 c846338400 d859644000 c877788000
    d891093600 c909237600 d922543200 c941292000 d953992800 c972741600 d985442400 c1004191200
    d1017496800 c1035640800 d1048946400 c1067090400 d1080396000 c1099144800 d1111845600
    c1130594400 d1143295200 c1162044000 d1174744800 c1193493600 d1206799200 c1224943200
    d1238248800 c1256392800 b1288450800 c1301151600|"),
  ("Asia/Karachi",
    "16092:LMT 19800:+0530 23400:+0630 18000:+05 18000:PKT 21600:PKST|b-1988166492 c-862637400
    b-764145000 d-576135000 e38775600 f1018119600 e1033840800 f1212260400 e1225476000
    f1239735600 e1257012000|"),
  ("Asia/Kathmandu",
    "20476:LMT 19800:+0530 20700:+0545|b-1577943676 c504901800|"),
  ("Asia/Khandyga",
    "32533:LMT 28800:+08 32400:+09 36000:+10 39600:+11|b-1579424533 c-1247558400 d354898800
    c370706400 d386434800 c402242400 d417970800 c433778400 d449593200 c465325200 d481050000
    c496774800 d512499600 c528224400 d543949200 c559674000 d575398800 c591123600 d606848400
    c622573200 d638298000 c654627600 b686080800 c695757600 d701802000 c717526800 d733251600
    c748976400 d764701200 c780426000 d796150800 c811875600 d828205200 c846349200 d859654800
    c877798800 d891104400 c909248400 d922554000 c941302800 d954003600 c972752400 d985453200
    c1004202000 d1017507600 c1035651600 d1048957200 c1067101200 d1072882800 e1080403200
    d1099152000 e1111852800 d1130601600 e1143302400 d1162051200 e1174752000 d1193500800
    e1206806400 d1224950400 e1238256000 d1256400000 e1269705600 d1288454400 e1301155200
    d1315832400 c1414252800|"),
  ("Asia/Kolkata",
    "21208:LMT 21200:HMT 19270:MMT 19800:IST 23400:+0630|b-3645237208 c-3155694800 d-2019705670
    e-891581400 d-872058600 e-862637400 d-764145000|"),
  ("Asia/Krasnoyarsk",
    "22286:LMT 21600:+06 25200:+07 28800:+08|b-1577513486 c-1247551200 d354906000 c370713600
    d386442000 c402249600 d417978000 c433785600 d449600400 c465332400 d481057200 c496782000
    d512506800 c528231600 d543956400 c559681200 d575406000 c591130800 d606855600 c622580400
    d638305200 c654634800 b686088000 c695764800 d701809200 c717534000 d733258800 c748983600
    d764708400 c780433200 d796158000 c811882800 d828212400 c846356400 d859662000 c877806000
    d891111600 c909255600 d922561200 c941310000 d954010800 c972759600 d985460400 c1004209200
    d1017514800 c1035658800 d1048964400 c1067108400 d1080414000 c1099162800 d1111863600
    c1130612400 d1143313200 c1162062000 d1174762800 c1193511600 d1206817200 c1224961200
    d1238266800 c1256410800 d1269716400 c1288465200 d1301166000 c1414260000|"),
  ("Asia/Kuching",
    "26480:LMT 27000:+0730 28800:+08 30000:+0820 32400:+09|b-1383463280 c-1167636600
    d-1082448000 c-1074586800 d-1050825600 c-1042964400 d-1019289600 c-1011428400 d-987753600
    c-979892400 d-956217600 c-948356400 d-924595200 c-916734000 d-893059200 c-885198000
    e-879667200 c-767005200|"),
  ("Asia/Macau",
    "27250:LMT 28800:CST 32400:+09 36000:+10 32400:CDT|b-2056692850 c-884509200 d-873280800
    c-855918000 d-841744800 c-828529200 b-765363600 e-747046800 b-733827600 e-716461200
    b-697021200 e-683715600 b-667990800 e-654771600 b-636627600 e-623322000 b-605178000
    e-591872400 b-573642000 e-559818000 b-541674000 e-528368400 b-510224400 e-498128400
    b-478774800 e-466678800 b-446720400 e-435229200 b-415258200 e-403158600 b-383808600
    e-371709000 b-352359000 e-340259400 b-320909400 e-308809800 b-288855000 e-277360200
    b-257405400 e-245910600 b-225955800 e-213856200 b-194506200 e-182406600 b-163056600
    e-148537800 b-132820200 e-117088200 b-101370600 e-85638600 b-69312600 e-53584200 b-37863000
    e-22134600 b-6413400 e9315000 b25036200 e40764600 b56485800 e72214200 b88540200 e104268600
    b119989800 e126041400 b151439400 e167167800 b182889000 e198617400 b214338600 e295385400
    b309292200|"),
  ("Asia/Magadan",
    "36192:LMT 36000:+10 39600:+11 43200:+12|b-1441188192 c-1247565600 d354891600 c370699200
    d386427600 c402235200 d417963600 c433771200 d449586000 c465318000 d481042800 c496767600
    d512492400 c528217200 d543942000 c559666800 d575391600 c591116400 d606841200 c622566000
    d638290800 c654620400 b686073600 c695750400 d701794800 c717519600 d733244400 c748969200
    d764694000 c780418800 d796143600 c811868400 d828198000 c846342000 d859647600 c877791600
    d891097200 c909241200 d922546800 c941295600 d953996400 c972745200 d985446000 c1004194800
    d1017500400 c1035644400 d1048950000 c1067094000 d1080399600 c1099148400 d1111849200
    c1130598000 d1143298800 c1162047600 d1174748400 c1193497200 d1206802800 c1224946800
    d1238252400 c1256396400 d1269702000 c1288450800 d1301151600 b1414245600 c1461427200|"),
  ("Asia/Makassar",
    "28656:LMT 28656:MMT 28800:+08 32400:+09 28800:WITA|b-1577951856 c-1172908656 d-880272000
    e-766054800|"),
  ("Asia/Manila",
    "-57368:LMT 29032:LMT 28800:PST 32400:PDT 32400:JST|b-3944621032 c-2219083200 d-1046678400
    c-1040115600 d-885024000 e-880016400 d-783594000 c-760093200 d-496224000 c-491562000
    d228326400 c243702000 d643219200 c649177200|"),
  ("Asia/Nicosia",
    "8008:LMT 7200:EET 10800:EEST|b-1518920008 c166572000 b182293200 c200959200 b213829200
    c228866400 b243982800 c260316000 b276123600 c291765600 b307486800 c323820000 b338936400
    c354664800 b370386000 c386114400 b401835600 c417564000 b433285200 c449013600 b465339600
    c481068000 b496789200 c512517600 b528238800 c543967200 b559688400 c575416800 b591138000
    c606866400 b622587600 c638316000 b654642000 c670370400 b686091600 c701820000 b717541200
    c733269600 b748990800 c764719200 b780440400 c796168800 b811890000 c828223200 b843944400
    c859672800 b875394000 c891122400 b909277200|1999 c3.25.6.3600 b10.25.6.3600"),
  ("Asia/Novokuznetsk",
    "20928:LMT 21600:+06 25200:+07 28800:+08|b-1441259328 c-1247551200 d354906000 c370713600
    d386442000 c402249600 d417978000 c433785600 d449600400 c465332400 d481057200 c496782000
    d512506800 c528231600 d543956400 c559681200 d575406000 c591130800 d606855600 c622580400
    d638305200 c654634800 b686088000 c695764800 d701809200 c717534000 d733258800 c748983600
    d764708400 c780433200 d796158000 c811882800 d828212400 c846356400 d859662000 c877806000
    d891111600 c909255600 d922561200 c941310000 d954010800 c972759600 d985460400 c1004209200
    d1017514800 c1035658800 d1048964400 c1067108400 d1080414000 c1099162800 d1111863600
    c1130612400 d1143313200 c1162062000 d1174762800 c1193511600 d1206817200 c1224961200
    d1238266800 c1256410800 b1288468800 c1301169600|"),
  ("Asia/Novosibirsk",
    "19900:LMT 21600:+06 25200:+07 28800:+08|b-1579476700 c-1247551200 d354906000 c370713600
    d386442000 c402249600 d417978000 c433785600 d449600400 c465332400 d481057200 c496782000
    d512506800 c528231600 d543956400 c559681200 d575406000 c591130800 d606855600 c622580400
    d638305200 c654634800 b686088000 c695764800 d701809200 c717534000 d733258800 c738086400
    b748987200 c764712000 b780436800 c796161600 b811886400 c828216000 b846360000 c859665600
    b877809600 c891115200 b909259200 c922564800 b941313600 c954014400 b972763200 c985464000
    b1004212800 c1017518400 b1035662400 c1048968000 b1067112000 c1080417600 b1099166400
    c1111867200 b1130616000 c1143316800 b1162065600 c1174766400 b1193515200 c1206820800
    b1224964800 c1238270400 b1256414400 c1269720000 b1288468800 c1301169600 b1414263600
    c1469304000|"),
  ("Asia/Omsk",
    "17610:LMT 18000:+05 21600:+06 25200:+07|b-1582088010 c-1247547600 d354909600 c370717200
    d386445600 c402253200 d417981600 c433789200 d449604000 c465336000 d481060800 c496785600
    d512510400 c528235200 d543960000 c559684800 d575409600 c591134400 d606859200 c622584000
    d638308800 c654638400 b686091600 c695768400 d701812800 c717537600 d733262400 c748987200
    d764712000 c780436800 d796161600 c811886400 d828216000 c846360000 d859665600 c877809600
    d891115200 c909259200 d922564800 c941313600 d954014400 c972763200 d985464000 c1004212800
    d1017518400 c1035662400 d1048968000 c1067112000 d1080417600 c1099166400 d1111867200
    c1130616000 d1143316800 c1162065600 d1174766400 c1193515200 d1206820800 c1224964800
    d1238270400 c1256414400 d1269720000 c1288468800 d1301169600 c1414263600|"),
  ("Asia/Oral",
    "12324:LMT 10800:+03 18000:+05 21600:+06 14400:+04|b-1441164324 c-1247540400 d354913200
    c402256800 d417985200 c433792800 d449607600 c465339600 d481064400 c496789200 d512514000
    c528238800 d543963600 c559688400 d575413200 c591138000 e622591200 c638316000 e654645600
    c670370400 e686095200 c695772000 e717544800 c733269600 e748994400 c764719200 e780444000
    c796168800 e811893600 c828223200 e846367200 c859672800 e877816800 c891122400 e909266400
    c922572000 e941320800 c954021600 e972770400 c985471200 e1004220000 c1017525600 e1035669600
    c1048975200 e1067119200 c1080424800|"),
  ("Asia/Pontianak",
    "26240:LMT 26240:PMT 27000:+0730 32400:+09 28800:+08 28800:WITA 25200:WIB|b-1946186240
    c-1172906240 d-881220600 c-766054800 e-683883000 c-620812800 f-189415800 g567964800|"),
  ("Asia/Pyongyang",
    "30180:LMT 30600:KST 32400:JST 32400:KST|b-1948782180 c-1830414600 d-768646800 b1439564400
    d1525446000|"),
  ("Asia/Qatar",
    "12368:LMT 14400:+04 10800:+03|b-1577935568 c76190400|"),
  ("Asia/Qostanay",
    "15268:LMT 14400:+04 18000:+05 21600:+06|b-1441167268 c-1247544000 d354913200 c402256800
    d417985200 c433792800 d449607600 c465339600 d481064400 c496789200 d512514000 c528238800
    d543963600 c559688400 d575413200 c591138000 d606862800 c622587600 d638312400 c654642000
    b686095200 c695772000 d701816400 c717541200 d733266000 c748990800 d764715600 c780440400
    d796165200 c811890000 d828219600 c846363600 d859669200 c877813200 d891118800 c909262800
    d922568400 c941317200 d954018000 c972766800 d985467600 c1004216400 d1017522000 c1035666000
    d1048971600 c1067115600 d1080421200 c1709229600|"),
  ("Asia/Qyzylorda",
    "15712:LMT 14400:+04 18000:+05 21600:+06|b-1441167712 c-1247544000 d354913200 c402256800
    d417985200 c433792800 d449607600 c465339600 d481064400 c496789200 d512514000 c528238800
    d543963600 c559688400 d575413200 c591138000 d606862800 c622587600 d638312400 c654642000
    d695768400 c717541200 d733266000 c748990800 d764715600 c780440400 d796165200 c811890000
    d828219600 c846363600 d859669200 c877813200 d891118800 c909262800 d922568400 c941317200
    d954018000 c972766800 d985467600 c1004216400 d1017522000 c1035666000 d1048971600
    c1067115600 d1080421200 c1545328800|"),
  ("Asia/Riyadh",
    "11212:LMT 10800:+03|b-719636812|"),
  ("Asia/Sakhalin",
    "34248:LMT 32400:+09 39600:+11 43200:+12 36000:+10|b-2031039048 c-768560400 d354891600
    c370699200 d386427600 c402235200 d417963600 c433771200 d449586000 c465318000 d481042800
    c496767600 d512492400 c528217200 d543942000 c559666800 d575391600 c591116400 d606841200
    c622566000 d638290800 c654620400 e686073600 c695750400 d701794800 c717519600 d733244400
    c748969200 d764694000 c780418800 d796143600 c811868400 d828198000 c846342000 e877795200
    c891100800 e909244800 c922550400 e941299200 c954000000 e972748800 c985449600 e1004198400
    c1017504000 e1035648000 c1048953600 e1067097600 c1080403200 e1099152000 c1111852800
    e1130601600 c1143302400 e1162051200 c1174752000 e1193500800 c1206806400 e1224950400
    c1238256000 e1256400000 c1269705600 e1288454400 c1301155200 e1414249200 c1459008000|"),
  ("Asia/Samarkand",
    "16073:LMT 14400:+04 18000:+05 21600:+06|b-1441168073 c-1247544000 d354913200 c402256800
    d417985200 c433792800 d449607600 c465339600 d481064400 c496789200 d512514000 c528238800
    d543963600 c559688400 d575413200 c591138000 d606862800 c622587600 d638312400 c654642000
    d670366800 c686091600|"),
  ("Asia/Seoul",
    "30472:LMT 30600:KST 32400:JST 32400:KST 36000:KDT 34200:KDT|b-1948782472 c-1830414600
    d-767350800 e-681210000 d-672228000 e-654771600 d-640864800 e-623408400 d-609415200
    e-588848400 d-577965600 b-498128400 f-462702600 b-451733400 f-429784200 b-418296600
    f-399544200 b-387451800 f-368094600 b-356002200 f-336645000 b-324552600 f-305195400
    b-293103000 d-264933000 e547578000 d560883600 e579027600 d592333200|"),
  ("Asia/Shanghai",
    "29143:LMT 28800:CST 32400:CDT|b-2177481943 c-1600675200 b-1585904400 c-933667200
    b-922093200 c-908870400 b-888829200 c-881049600 b-767869200 c-745833600 b-733827600
    c-716889600 b-699613200 c-683884800 b-670669200 c-652348800 b-650019600 c515527200
    b527014800 c545162400 b558464400 c577216800 b589914000 c608666400 b621968400 c640116000
    b653418000 c671565600 b684867600|"),
  ("Asia/Singapore",
    "24925:LMT 24925:SMT 25200:+07 26400:+0720 27000:+0730 32400:+09 28800:+08|b-2177477725
    c-2038200925 d-1167634800 e-894180000 f-879665400 e-767005200 g378662400|"),
  ("Asia/Srednekolymsk",
    "36892:LMT 36000:+10 39600:+11 43200:+12|b-1441188892 c-1247565600 d354891600 c370699200
    d386427600 c402235200 d417963600 c433771200 d449586000 c465318000 d481042800 c496767600
    d512492400 c528217200 d543942000 c559666800 d575391600 c591116400 d606841200 c622566000
    d638290800 c654620400 b686073600 c695750400 d701794800 c717519600 d733244400 c748969200
    d764694000 c780418800 d796143600 c811868400 d828198000 c846342000 d859647600 c877791600
    d891097200 c909241200 d922546800 c941295600 d953996400 c972745200 d985446000 c1004194800
    d1017500400 c1035644400 d1048950000 c1067094000 d1080399600 c1099148400 d1111849200
    c1130598000 d1143298800 c1162047600 d1174748400 c1193497200 d1206802800 c1224946800
    d1238252400 c1256396400 d1269702000 c1288450800 d1301151600 c1414245600|"),
  ("Asia/Taipei",
    "29160:LMT 28800:CST 32400:JST 32400:CDT|b-2335248360 c-1017820800 b-766224000 d-745833600
    b-733827600 d-716889600 b-699613200 d-683884800 b-670669200 d-652348800 b-639133200
    d-620812800 b-607597200 d-589276800 b-576061200 d-562924800 b-541760400 d-528710400
    b-510224400 d-497174400 b-478688400 d-465638400 b-449830800 d-434016000 b-418208400
    d-402480000 b-386672400 d-370944000 b-355136400 d-339408000 b-323600400 d-302515200
    b-291978000 d-270979200 b-260442000 d133977600 b149785200 d165513600 b181321200 d299606400
    b307551600|"),
  ("Asia/Tashkent",
    "16631:LMT 18000:+05 21600:+06 25200:+07|b-1441168631 c-1247547600 d354909600 c370717200
    d386445600 c402253200 d417981600 c433789200 d449604000 c465336000 d481060800 c496785600
    d512510400 c528235200 d543960000 c559684800 d575409600 c591134400 d606859200 c622584000
    d638308800 c654638400 b686091600|"),
  ("Asia/Tbilisi",
    "10751:LMT 10751:TBMT 10800:+03 14400:+04 18000:+05|b-2840151551 c-1441162751 d-405140400
    e354916800 d370724400 e386452800 d402260400 e417988800 d433796400 e449611200 d465343200
    e481068000 d496792800 e512517600 d528242400 e543967200 d559692000 e575416800 d591141600
    e606866400 d622591200 e638316000 d654645600 c686098800 d701816400 c717537600 d733266000
    c748987200 d764715600 e796161600 d811882800 e828216000 d877806000 e891115200 d909255600
    e922564800 d941310000 e954014400 d972759600 e985464000 d1004209200 e1017518400 d1035658800
    e1048968000 d1067108400 e1080417600 d1088276400 c1099177200 d1111878000|"),
  ("Asia/Tehran",
    "12344:LMT 12344:TMT 12600:+0330 16200:+0430 14400:+04 18000:+05|b-1704165944 c-1090466744
    d227820600 e246223800 f259617600 e271108800 c279576000 d296598600 c306531000 d322432200
    c338499000 d673216200 c685481400 d701209800 c717103800 d732745800 c748639800 d764281800
    c780175800 d795817800 c811711800 d827353800 c843247800 d858976200 c874870200 d890512200
    c906406200 d922048200 c937942200 d953584200 c969478200 d985206600 c1001100600 d1016742600
    c1032636600 d1048278600 c1064172600 d1079814600 c1095708600 d1111437000 c1127331000
    d1206045000 c1221939000 d1237667400 c1253561400 d1269203400 c1285097400 d1300739400
    c1316633400 d1332275400 c1348169400 d1363897800 c1379791800 d1395433800 c1411327800
    d1426969800 c1442863800 d1458505800 c1474399800 d1490128200 c1506022200 d1521664200
    c1537558200 d1553200200 c1569094200 d1584736200 c1600630200 d1616358600 c1632252600
    d1647894600 c1663788600|"),
  ("Asia/Thimphu",
    "21516:LMT 19800:+0530 21600:+06|b-706341516 c560025000|"),
  ("Asia/Tokyo",
    "33539:LMT 32400:JST 36000:JDT|b-2587712400 c-683802000 b-672310800 c-654771600 b-640861200
    c-620298000 b-609411600 c-588848400 b-577962000|"),
  ("Asia/Tomsk",
    "20391:LMT 21600:+06 25200:+07 28800:+08|b-1578807591 c-1247551200 d354906000 c370713600
    d386442000 c402249600 d417978000 c433785600 d449600400 c465332400 d481057200 c496782000
    d512506800 c528231600 d543956400 c559681200 d575406000 c591130800 d606855600 c622580400
    d638305200 c654634800 b686088000 c695764800 d701809200 c717534000 d733258800 c748983600
    d764708400 c780433200 d796158000 c811882800 d828212400 c846356400 d859662000 c877806000
    d891111600 c909255600 d922561200 c941310000 d954010800 c972759600 d985460400 c1004209200
    d1017514800 c1020193200 b1035662400 c1048968000 b1067112000 c1080417600 b1099166400
    c1111867200 b1130616000 c1143316800 b1162065600 c1174766400 b1193515200 c1206820800
    b1224964800 c1238270400 b1256414400 c1269720000 b1288468800 c1301169600 b1414263600
    c1464465600|"),
  ("Asia/Ulaanbaatar",
    "25652:LMT 25200:+07 28800:+08 32400:+09|b-2032931252 c252435600 d417974400 c433782000
    d449596800 c465318000 d481046400 c496767600 d512496000 c528217200 d543945600 c559666800
    d575395200 c591116400 d606844800 c622566000 d638294400 c654620400 d670348800 c686070000
    d701798400 c717519600 d733248000 c748969200 d764697600 c780418800 d796147200 c811868400
    d828201600 c843922800 d859651200 c875372400 d891100800 c906822000 d988394400 c1001696400
    d1017424800 c1033146000 d1048874400 c1064595600 d1080324000 c1096045200 d1111773600
    c1127494800 d1143223200 c1159549200 d1427479200 c1443193200 d1458928800 c1474642800|"),
  ("Asia/Urumqi",
    "21020:LMT 21600:+06|b-1325483420|"),
  ("Asia/Ust-Nera",
    "34374:LMT 28800:+08 32400:+09 43200:+12 39600:+11 36000:+10|b-1579426374 c-1247558400
    d354898800 e370699200 d386427600 e402235200 d417963600 e433771200 d449586000 e465318000
    d481042800 e496767600 d512492400 e528217200 d543942000 e559666800 d575391600 e591116400
    d606841200 e622566000 d638290800 e654620400 f686073600 e695750400 d701794800 e717519600
    d733244400 e748969200 d764694000 e780418800 d796143600 e811868400 d828198000 e846342000
    d859647600 e877791600 d891097200 e909241200 d922546800 e941295600 d953996400 e972745200
    d985446000 e1004194800 d1017500400 e1035644400 d1048950000 e1067094000 d1080399600
    e1099148400 d1111849200 e1130598000 d1143298800 e1162047600 d1174748400 e1193497200
    d1206802800 e1224946800 d1238252400 e1256396400 d1269702000 e1288450800 d1301151600
    e1315828800 f1414249200|"),
  ("Asia/Vladivostok",
    "31651:LMT 32400:+09 36000:+10 39600:+11|b-1487321251 c-1247562000 d354895200 c370702800
    d386431200 c402238800 d417967200 c433774800 d449589600 c465321600 d481046400 c496771200
    d512496000 c528220800 d543945600 c559670400 d575395200 c591120000 d606844800 c622569600
    d638294400 c654624000 b686077200 c695754000 d701798400 c717523200 d733248000 c748972800
    d764697600 c780422400 d796147200 c811872000 d828201600 c846345600 d859651200 c877795200
    d891100800 c909244800 d922550400 c941299200 d954000000 c972748800 d985449600 c1004198400
    d1017504000 c1035648000 d1048953600 c1067097600 d1080403200 c1099152000 d1111852800
    c1130601600 d1143302400 c1162051200 d1174752000 c1193500800 d1206806400 c1224950400
    d1238256000 c1256400000 d1269705600 c1288454400 d1301155200 c1414249200|"),
  ("Asia/Yakutsk",
    "31138:LMT 28800:+08 32400:+09 36000:+10|b-1579423138 c-1247558400 d354898800 c370706400
    d386434800 c402242400 d417970800 c433778400 d449593200 c465325200 d481050000 c496774800
    d512499600 c528224400 d543949200 c559674000 d575398800 c591123600 d606848400 c622573200
    d638298000 c654627600 b686080800 c695757600 d701802000 c717526800 d733251600 c748976400
    d764701200 c780426000 d796150800 c811875600 d828205200 c846349200 d859654800 c877798800
    d891104400 c909248400 d922554000 c941302800 d954003600 c972752400 d985453200 c1004202000
    d1017507600 c1035651600 d1048957200 c1067101200 d1080406800 c1099155600 d1111856400
    c1130605200 d1143306000 c1162054800 d1174755600 c1193504400 d1206810000 c1224954000
    d1238259600 c1256403600 d1269709200 c1288458000 d1301158800 c1414252800|"),
  ("Asia/Yangon",
    "23087:LMT 23087:RMT 23400:+0630 32400:+09|b-2840163887 c-1577946287 d-873268200 c-778410000|"),
  ("Asia/Yekaterinburg",
    "14553:LMT 13505:PMT 14400:+04 18000:+05 21600:+06|b-1688270553 c-1592610305 d-1247544000
    e354913200 d370720800 e386449200 d402256800 e417985200 d433792800 e449607600 d465339600
    e481064400 d496789200 e512514000 d528238800 e543963600 d559688400 e575413200 d591138000
    e606862800 d622587600 e638312400 d654642000 c686095200 d695772000 e701816400 d717541200
    e733266000 d748990800 e764715600 d780440400 e796165200 d811890000 e828219600 d846363600
    e859669200 d877813200 e891118800 d909262800 e922568400 d941317200 e954018000 d972766800
    e985467600 d1004216400 e1017522000 d1035666000 e1048971600 d1067115600 e1080421200
    d1099170000 e1111870800 d1130619600 e1143320400 d1162069200 e1174770000 d1193518800
    e1206824400 d1224968400 e1238274000 d1256418000 e1269723600 d1288472400 e1301173200
    d1414267200|"),
  ("Asia/Yerevan",
    "10680:LMT 10800:+03 14400:+04 18000:+05|b-1441162680 c-405140400 d354916800 c370724400
    d386452800 c402260400 d417988800 c433796400 d449611200 c465343200 d481068000 c496792800
    d512517600 c528242400 d543967200 c559692000 d575416800 c591141600 d606866400 c622591200
    d638316000 c654645600 b686098800 c701823600 b717548400 c733273200 b748998000 c764722800
    b780447600 c796172400 d859672800 c877816800 d891122400 c909266400 d922572000 c941320800
    d954021600 c972770400 d985471200 c1004220000 d1017525600 c1035669600 d1048975200
    c1067119200 d1080424800 c1099173600 d1111874400 c1130623200 d1143324000 c1162072800
    d1174773600 c1193522400 d1206828000 c1224972000 d1238277600 c1256421600 d1269727200
    c1288476000 d1301176800 c1319925600|")]

end PathTemplate.Time.ZoneTable
