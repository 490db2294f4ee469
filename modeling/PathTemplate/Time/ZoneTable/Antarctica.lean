/-
# Zones named for Antarctica

Key definitions: `antarctica`, the names of the zones with their records.
-/

namespace PathTemplate.Time.ZoneTable

/-- The records of the zones, by name. -/
def antarctica : List (String × String) := [
  ("Antarctica/Casey",
    "0:-00 28800:+08 39600:+11|b-31536000 c1255802400 b1267714800 c1319738400 b1329843600
    c1477065600 b1520701200 c1538856000 b1552752000 c1570129200 b1583596800 c1601740860
    b1615640400 c1633190460 b1647090000 c1664640060 b1678291200|"),
  ("Antarctica/Davis",
    "0:-00 25200:+07 18000:+05|b-409190400 a-163062000 b-28857600 c1255806000 b1268251200
    c1319742000 b1329854400|"),
  ("Antarctica/Macquarie",
    "0:-00 36000:AEST 39600:AEDT|b-2214259200 c-1680508800 b-1665388800 a-1601719200 b-687052800
    c-71136000 b-55411200 c-37267200 b-25776000 c-5817600 b5673600 c25632000 b37728000
    c57686400 b67968000 c89136000 b100022400 c120585600 b131472000 c152035200 b162921600
    c183484800 b194976000 c215539200 b226425600 c246988800 b257875200 c278438400 b289324800
    c309888000 b320774400 c341337600 b352224000 c372787200 b386092800 c404841600 b417542400
    c436291200 b447177600 c467740800 b478627200 c499190400 b510076800 c530035200 b542736000
    c562089600 b574790400 c594144000 b606240000 c625593600 b637689600 c657043200 b670348800
    c686678400 b701798400 c718128000 b733248000 c749577600 b764697600 c781027200 b796147200
    c812476800 b828201600 c844531200 b859651200 c875980800 b891100800 c907430400 b922550400
    c938880000 b954000000 c967305600 b985449600 c1002384000 b1017504000 c1033833600 b1048953600
    c1065283200 b1080403200 c1096732800 b1111852800 c1128182400 b1143907200 c1159632000
    b1174752000 c1191686400 b1207411200 c1223136000 b1238860800 c1254585600|2011 b4.1.6.-28800
    c10.1.6.-28800"),
  ("Antarctica/Mawson",
    "0:-00 21600:+06 18000:+05|b-501206400 c1255809600|"),
  ("Antarctica/Palmer",
    "0:-00 -10800:-03 -14400:-04 -7200:-02|b-157766400 c-152658000 b-132955200 c-121122000
    b-101419200 c-86821200 b-71092800 c-54766800 b-39038400 c-23317200 b-7588800 d128142000
    b136605600 c389070000 b403070400 c416372400 b434520000 c447822000 b466574400 c479271600
    b498024000 c510721200 b529473600 c545194800 b560923200 c574225200 b592372800 c605674800
    b624427200 c637124400 b653457600 c668574000 b687326400 c700628400 b718776000 c732078000
    b750225600 c763527600 b781675200 c794977200 b813729600 c826426800 b845179200 c859690800
    b876628800 c889930800 b906868800 c923194800 b939528000 c952830000 b971582400 c984279600
    b1003032000 c1015729200 b1034481600 c1047178800 b1065931200 c1079233200 b1097380800
    c1110682800 b1128830400 c1142132400 b1160884800 c1173582000 b1192334400 c1206846000
    b1223784000 c1237086000 b1255233600 c1270350000 b1286683200 c1304823600 b1313899200
    c1335668400 b1346558400 c1367118000 b1378612800 c1398567600 b1410062400 c1463281200
    b1471147200|"),
  ("Antarctica/Rothera",
    "0:-00 -10800:-03|b218246400|"),
  ("Antarctica/Troll",
    "0:-00 0:+00 7200:+02|b1108166400|2005 c3.25.6.3600 b10.25.6.3600"),
  ("Antarctica/Vostok",
    "0:-00 25200:+07 18000:+05|b-380073600 a760035600 b783648000 c1702839600|")]

end PathTemplate.Time.ZoneTable
