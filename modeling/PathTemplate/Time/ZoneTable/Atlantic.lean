/-
# Zones named for the Atlantic Ocean

Key definitions: `atlantic`, the names of the zones with their records.
-/

namespace PathTemplate.Time.ZoneTable

/-- The records of the zones, by name. -/
def atlantic : List (String × String) := [
  ("Atlantic/Azores",
    "-6160:LMT -6872:HMT -7200:-02 -3600:-01 0:+00 0:WET 3600:WEST|b-2713904240 c-1830376800
    d-1689548400 c-1677794400 d-1667426400 c-1647730800 d-1635890400 c-1616194800 d-1604354400
    c-1584658800 d-1572732000 c-1553036400 d-1541196000 c-1521500400 d-1442444400 c-1427670000
    d-1379286000 c-1364770800 d-1348441200 c-1333321200 d-1316386800 c-1301266800 d-1284332400
    c-1269817200 d-1221433200 c-1206918000 d-1191193200 c-1175468400 d-1127689200 c-1111964400
    d-1096844400 c-1080514800 d-1063580400 c-1049065200 d-1033340400 c-1017615600 d-1002495600
    c-986166000 d-969231600 c-950482800 d-942015600 c-922489200 d-906937200 c-891126000
    d-877302000 e-873676800 d-864000000 c-857948400 d-845852400 e-842832000 d-831340800
    c-825894000 d-814402800 e-810777600 d-799891200 c-794444400 d-782953200 e-779328000
    d-768441600 c-762994800 d-749084400 c-733359600 d-717624000 c-701899200 d-686174400
    c-670449600 d-654724800 c-639000000 d-623275200 c-607550400 d-591825600 c-575496000
    d-559771200 c-544046400 d-528321600 c-512596800 d-496872000 c-481147200 d-465422400
    c-449697600 d-433972800 c-417643200 d-401918400 c-386193600 d-370468800 c-354744000
    d-339019200 c-323294400 d-307569600 c-291844800 d-276120000 c-260395200 d-244670400
    c-228340800 d-212616000 c-196891200 d-181166400 c-165441600 d-149716800 c-133992000
    d-118267200 e386125200 d401850000 e417574800 d433299600 e449024400 d465354000 e481078800
    d496803600 e512528400 d528253200 e543978000 d559702800 e575427600 d591152400 e606877200
    d622602000 e638326800 d654656400 e670381200 d686106000 e701830800 d717555600 f725421600
    g733280400 e740278800 d749005200 e764730000 d780454800 e796179600 d811904400|1996
    e3.25.6.3600 d10.25.6.3600"),
  ("Atlantic/Bermuda",
    "-15558:LMT -15558:BMT -11958:BST -14400:AST -10800:ADT|b-2524506042 c-1664307642
    b-1648932042 c-1632080442 b-1618692042 d-1262281242 e-882727200 d-858538800 e-845229600
    d-825879600 e-814384800 d-793825200 e-782935200 d-762375600 e-713988000 d-703710000
    e-681933600 d-672865200 e-650484000 d-641415600 e-618429600 d-609966000 e-586980000
    d-578516400 e-555530400 d-546462000 e-429127200 d-415825200 e136360800 d152082000
    e167810400 d183531600 e199260000 d215586000 e230709600 d247035600 e262764000 d278485200
    e294213600 d309934800 e325663200 d341384400 e357112800 d372834000 e388562400 d404888400
    e420012000 d436338000 e452066400 d467787600 e483516000 d499237200 e514965600 d530686800
    e544600800 d562136400 e576050400 d594190800 e607500000 d625640400 e638949600 d657090000
    e671004000 d688539600 e702453600 d719989200 e733903200 d752043600 e765352800 d783493200
    e796802400 d814942800 e828856800 d846392400 e860306400 d877842000 e891756000 d909291600
    e923205600 d941346000 e954655200 d972795600 e986104800 d1004245200 e1018159200 d1035694800
    e1049608800 d1067144400 e1081058400 d1099198800 e1112508000 d1130648400 e1143957600
    d1162098000|2007 e3.8.6.21600 d11.1.6.18000"),
  ("Atlantic/Canary",
    "-3696:LMT -3600:-01 0:WET 3600:WEST|b-1509663504 c-733874400 d323827200 c338950800
    d354675600 c370400400 d386125200 c401850000 d417574800 c433299600 d449024400 c465354000
    d481078800 c496803600 d512528400 c528253200 d543978000 c559702800 d575427600 c591152400
    d606877200 c622602000 d638326800 c654656400 d670381200 c686106000 d701830800 c717555600
    d733280400 c749005200 d764730000 c780454800 d796179600 c811904400|1996 d3.25.6.3600
    c10.25.6.3600"),
  ("Atlantic/Cape_Verde",
    "-5644:LMT -7200:-02 -3600:-01|b-1830376800 c-862610400 b-764118000 c186120000|"),
  ("Atlantic/Faroe",
    "-1624:LMT 0:WET 3600:WEST|b-1955748776 c354675600 b370400400 c386125200 b401850000
    c417574800 b433299600 c449024400 b465354000 c481078800 b496803600 c512528400 b528253200
    c543978000 b559702800 c575427600 b591152400 c606877200 b622602000 c638326800 b654656400
    c670381200 b686106000 c701830800 b717555600 c733280400 b749005200 c764730000 b780454800
    c796179600 b811904400|1996 c3.25.6.3600 b10.25.6.3600"),
  ("Atlantic/Madeira",
    "-4056:LMT -4056:FMT -3600:-01 0:+00 3600:+01 0:WET 3600:WEST|b-2713906344 c-1830380400
    d-1689552000 c-1677798000 d-1667430000 c-1647734400 d-1635894000 c-1616198400 d-1604358000
    c-1584662400 d-1572735600 c-1553040000 d-1541199600 c-1521504000 d-1442448000 c-1427673600
    d-1379289600 c-1364774400 d-1348444800 c-1333324800 d-1316390400 c-1301270400 d-1284336000
    c-1269820800 d-1221436800 c-1206921600 d-1191196800 c-1175472000 d-1127692800 c-1111968000
    d-1096848000 c-1080518400 d-1063584000 c-1049068800 d-1033344000 c-1017619200 d-1002499200
    c-986169600 d-969235200 c-950486400 d-942019200 c-922492800 d-906940800 c-891129600
    d-877305600 e-873680400 d-864003600 c-857952000 d-845856000 e-842835600 d-831344400
    c-825897600 d-814406400 e-810781200 d-799894800 c-794448000 d-782956800 e-779331600
    d-768445200 c-762998400 d-749088000 c-733363200 d-717627600 c-701902800 d-686178000
    c-670453200 d-654728400 c-639003600 d-623278800 c-607554000 d-591829200 c-575499600
    d-559774800 c-544050000 d-528325200 c-512600400 d-496875600 c-481150800 d-465426000
    c-449701200 d-433976400 c-417646800 d-401922000 c-386197200 d-370472400 c-354747600
    d-339022800 c-323298000 d-307573200 c-291848400 d-276123600 c-260398800 d-244674000
    c-228344400 d-212619600 c-196894800 d-181170000 c-165445200 d-149720400 c-133995600
    d-118270800 f-102546000 g386726400 f401846400 g417571200 f433296000 g449020800 f465350400
    g481075200 f496800000 g512524800 f528253200 g543978000 f559702800 g575427600 f591152400
    g606877200 f622602000 g638326800 f654656400 g670381200 f686106000 g701830800 f717555600
    g733280400 f749005200 g764730000 f780454800 g796179600 f811904400|1996 g3.25.6.3600
    f10.25.6.3600"),
  ("Atlantic/South_Georgia",
    "-8768:LMT -7200:-02|b-2524512832|"),
  ("Atlantic/Stanley",
    "-13884:LMT -13884:SMT -14400:-04 -10800:-03 -7200:-02|b-2524507716 c-1824235716
    d-1018209600 c-1003093200 d-986760000 c-971643600 d-954705600 c-939589200 d-923256000
    c-908139600 d-891806400 c-876690000 d-860356800 c-852066000 d420609600 e433306800
    d452052000 e464151600 d483501600 c514350000 d527054400 c545799600 d558504000 c577249200
    d589953600 c608698800 d621403200 c640753200 d652852800 c672202800 d684907200 c703652400
    d716356800 c735102000 d747806400 c766551600 d779256000 c798001200 d810705600 c830055600
    d842760000 c861505200 d874209600 c892954800 d905659200 c924404400 d937108800 c955854000
    d968558400 c987310800 d999410400 c1019365200 d1030860000 c1050814800 d1062914400
    c1082264400 d1094364000 c1113714000 d1125813600 c1145163600 d1157263200 c1176613200
    d1188712800 c1208667600 d1220767200 c1240117200 d1252216800 c1271566800 d1283666400|")]

end PathTemplate.Time.ZoneTable
