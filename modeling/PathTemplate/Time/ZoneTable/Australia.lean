/-
# Zones named for Australia

Key definitions: `australia`, the names of the zones with their records.
-/

namespace PathTemplate.Time.ZoneTable

/-- The records of the zones, by name. -/
def australia : List (String × String) := [
  ("Australia/Adelaide",
    "33260:LMT 32400:ACST 34200:ACST 37800:ACDT|b-2364110060 c-2230189200 d-1672558200
    c-1665387000 d-883639800 c-876123000 d-860398200 c-844673400 d-828343800 c-813223800
    d57688200 c67969800 d89137800 c100024200 d120587400 c131473800 d152037000 c162923400
    d183486600 c194977800 d215541000 c226427400 d246990600 c257877000 d278440200 c289326600
    d309889800 c320776200 d341339400 c352225800 d372789000 c384280200 d404843400 c415729800
    d436293000 c447179400 d467742600 c478629000 d499192200 c511288200 d530037000 c542737800
    d562091400 c574792200 d594145800 c606241800 d625595400 c637691400 d657045000 c667931400
    d688494600 c701195400 d719944200 c731435400 d751998600 c764094600 d783448200 c796149000
    d814897800 c828203400 d846347400 c859653000 d877797000 c891102600 d909246600 c922552200
    d941301000 c954001800 d972750600 c985451400 d1004200200 c1017505800 d1035649800 c1048955400
    d1067099400 c1080405000 d1099153800 c1111854600 d1130603400 c1143909000 d1162053000
    c1174753800 d1193502600|2008 c4.1.6.-27000 d10.1.6.-27000"),
  ("Australia/Brisbane",
    "36728:LMT 36000:AEST 39600:AEDT|b-2366791928 c-1672560000 b-1665388800 c-883641600
    b-876124800 c-860400000 b-844675200 c-828345600 b-813225600 c57686400 b67968000 c625593600
    b636480000 c657043200 b667929600 c688492800 b699379200|"),
  ("Australia/Broken_Hill",
    "33948:LMT 36000:AEST 32400:ACST 34200:ACST 37800:ACDT|b-2364110748 c-2314951200
    d-2230189200 e-1672558200 d-1665387000 e-883639800 d-876123000 e-860398200 d-844673400
    e-828343800 d-813223800 e57688200 d67969800 e89137800 d100024200 e120587400 d131473800
    e152037000 d162923400 e183486600 d194977800 e215541000 d226427400 e246990600 d257877000
    e278440200 d289326600 e309889800 d320776200 e341339400 d352225800 e372789000 d386699400
    e404843400 d415729800 e436293000 d447179400 e467742600 d478629000 e499192200 d511288200
    e530037000 d542737800 e562091400 d574792200 e594145800 d606241800 e625595400 d636481800
    e657045000 d667931400 e688494600 d699381000 e719944200 d731435400 e751998600 d762885000
    e783448200 d794334600 e814897800 d828203400 e846347400 d859653000 e877797000 d891102600
    e909246600 d922552200 e941301000 d954001800 e972750600 d985451400 e1004200200 d1017505800
    e1035649800 d1048955400 e1067099400 d1080405000 e1099153800 d1111854600 e1130603400
    d1143909000 e1162053000 d1174753800 e1193502600|2008 d4.1.6.-27000 e10.1.6.-27000"),
  ("Australia/Darwin",
    "31400:LMT 32400:ACST 34200:ACST 37800:ACDT|b-2364108200 c-2230189200 d-1672558200
    c-1665387000 d-883639800 c-876123000 d-860398200 c-844673400 d-828343800 c-813223800|"),
  ("Australia/Eucla",
    "30928:LMT 31500:+0845 35100:+0945|b-2337928528 c-1672555500 b-1665384300 c-883637100
    b-876120300 c-860395500 b-844670700 c152039700 b162926100 c436295700 b447182100 c690311700
    b699383700 c1165079700 b1174756500 c1193505300 b1206810900 c1224954900 b1238260500|"),
  ("Australia/Hobart",
    "35356:LMT 36000:AEST 39600:AEDT|b-2345795356 c-1680508800 b-1665388800 c-1646640000
    b-1635753600 c-1615190400 b-1604304000 c-883641600 b-876124800 c-860400000 b-844675200
    c-828345600 b-813225600 c-71136000 b-55411200 c-37267200 b-25776000 c-5817600 b5673600
    c25632000 b37728000 c57686400 b67968000 c89136000 b100022400 c120585600 b131472000
    c152035200 b162921600 c183484800 b194976000 c215539200 b226425600 c246988800 b257875200
    c278438400 b289324800 c309888000 b320774400 c341337600 b352224000 c372787200 b386092800
    c404841600 b417542400 c436291200 b447177600 c467740800 b478627200 c499190400 b510076800
    c530035200 b542736000 c562089600 b574790400 c594144000 b606240000 c625593600 b637689600
    c657043200 b670348800 c686678400 b701798400 c718128000 b733248000 c749577600 b764697600
    c781027200 b796147200 c812476800 b828201600 c844531200 b859651200 c875980800 b891100800
    c907430400 b922550400 c938880000 b954000000 c967305600 b985449600 c1002384000 b1017504000
    c1033833600 b1048953600 c1065283200 b1080403200 c1096732800 b1111852800 c1128182400
    b1143907200 c1159632000 b1174752000 c1191686400|2008 b4.1.6.-28800 c10.1.6.-28800"),
  ("Australia/Lindeman",
    "35756:LMT 36000:AEST 39600:AEDT|b-2366790956 c-1672560000 b-1665388800 c-883641600
    b-876124800 c-860400000 b-844675200 c-828345600 b-813225600 c57686400 b67968000 c625593600
    b636480000 c657043200 b667929600 c688492800 b699379200 c719942400 b731433600 c751996800
    b762883200|"),
  ("Australia/Lord_Howe",
    "38180:LMT 36000:AEST 37800:+1030 41400:+1130 39600:+11|b-2364114980 c352216800 d372785400
    c384273000 d404839800 c415722600 d436289400 c447172200 d467739000 c478621800 e499188600
    c511282800 e530033400 c542732400 e562087800 c574786800 e594142200 c606236400 e625591800
    c636476400 e657041400 c667926000 e688491000 c699375600 e719940600 c731430000 e751995000
    c762879600 e783444600 c794329200 e814894200 c828198000 e846343800 c859647600 e877793400
    c891097200 e909243000 c922546800 e941297400 c953996400 e967303800 c985446000 e1004196600
    c1017500400 e1035646200 c1048950000 e1067095800 c1080399600 e1099150200 c1111849200
    e1130599800 c1143903600 e1162049400 c1174748400 e1193499000|2008 c4.1.6.-32400
    e10.1.6.-30600"),
  ("Australia/Melbourne",
    "34792:LMT 36000:AEST 39600:AEDT|b-2364111592 c-1672560000 b-1665388800 c-883641600
    b-876124800 c-860400000 b-844675200 c-828345600 b-813225600 c57686400 b67968000 c89136000
    b100022400 c120585600 b131472000 c152035200 b162921600 c183484800 b194976000 c215539200
    b226425600 c246988800 b257875200 c278438400 b289324800 c309888000 b320774400 c341337600
    b352224000 c372787200 b384278400 c404841600 b415728000 c436291200 b447177600 c467740800
    b478627200 c499190400 b511286400 c530035200 b542736000 c561484800 b574790400 c594144000
    b606240000 c625593600 b637689600 c657043200 b667929600 c688492800 b699379200 c719942400
    b731433600 c751996800 b762883200 c783446400 b796147200 c814896000 b828201600 c846345600
    b859651200 c877795200 b891100800 c909244800 b922550400 c941299200 b954000000 c967305600
    b985449600 c1004198400 b1017504000 c1035648000 b1048953600 c1067097600 b1080403200
    c1099152000 b1111852800 c1130601600 b1143907200 c1162051200 b1174752000 c1193500800|2008
    b4.1.6.-28800 c10.1.6.-28800"),
  ("Australia/Perth",
    "27804:LMT 28800:AWST 32400:AWDT|b-2337925404 c-1672552800 b-1665381600 c-883634400
    b-876117600 c-860392800 b-844668000 c152042400 b162928800 c436298400 b447184800 c690314400
    b699386400 c1165082400 b1174759200 c1193508000 b1206813600 c1224957600 b1238263200|"),
  ("Australia/Sydney",
    "36292:LMT 36000:AEST 39600:AEDT|b-2364113092 c-1672560000 b-1665388800 c-883641600
    b-876124800 c-860400000 b-844675200 c-828345600 b-813225600 c57686400 b67968000 c89136000
    b100022400 c120585600 b131472000 c152035200 b162921600 c183484800 b194976000 c215539200
    b226425600 c246988800 b257875200 c278438400 b289324800 c309888000 b320774400 c341337600
    b352224000 c372787200 b386697600 c404841600 b415728000 c436291200 b447177600 c467740800
    b478627200 c499190400 b511286400 c530035200 b542736000 c562089600 b574790400 c594144000
    b606240000 c625593600 b636480000 c657043200 b667929600 c688492800 b699379200 c719942400
    b731433600 c751996800 b762883200 c783446400 b794332800 c814896000 b828201600 c846345600
    b859651200 c877795200 b891100800 c909244800 b922550400 c941299200 b954000000 c967305600
    b985449600 c1004198400 b1017504000 c1035648000 b1048953600 c1067097600 b1080403200
    c1099152000 b1111852800 c1130601600 b1143907200 c1162051200 b1174752000 c1193500800|2008
    b4.1.6.-28800 c10.1.6.-28800")]

end PathTemplate.Time.ZoneTable
