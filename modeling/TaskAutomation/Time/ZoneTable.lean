/-!
This file holds the offsets of local time from universal time, as far as they were in force from
1965 on: the offset at first, and the seconds at which another offset took over. The names of the
zones are those of the public time zone database, and several of them share one history. No theorem
about all schedules depends on this table: which zones are known is a parameter there, and the table
is what the program gives for it.
-/

namespace TaskAutomation

/-- The history of a local time: the offset in seconds at first, then each later offset with the
second of universal time from which it holds, in order of time. -/
structure OffsetHistory where
  first : Int
  changes : List (Int × Int)
  deriving DecidableEq, Repr

namespace OffsetHistory

/-- A local time whose offset never changed. -/
def constant (offset : Int) : OffsetHistory := ⟨offset, []⟩

/-- The offset in force at a second of universal time: the last one that has taken over. -/
def offsetAt (history : OffsetHistory) (second : Int) : Int :=
  history.changes.foldl (fun offset change => if change.1 ≤ second then change.2 else offset)
    history.first

/-- Indian time. -/
def indian : OffsetHistory := constant 19800

/-- Nepalese time, moved by a quarter of an hour in 1986. -/
def nepalese : OffsetHistory where
  first := 19800
  changes := [
    (504901800, 20700)]

/-- Japanese time. -/
def japanese : OffsetHistory := constant 32400

/-- The time of Berlin. -/
def berlin : OffsetHistory where
  first := 3600
  changes := [
    (323830800, 7200), (338950800, 3600), (354675600, 7200), (370400400, 3600),
    (386125200, 7200), (401850000, 3600), (417574800, 7200), (433299600, 3600),
    (449024400, 7200), (465354000, 3600), (481078800, 7200), (496803600, 3600),
    (512528400, 7200), (528253200, 3600), (543978000, 7200), (559702800, 3600),
    (575427600, 7200), (591152400, 3600), (606877200, 7200), (622602000, 3600),
    (638326800, 7200), (654656400, 3600), (670381200, 7200), (686106000, 3600),
    (701830800, 7200), (717555600, 3600), (733280400, 7200), (749005200, 3600),
    (764730000, 7200), (780454800, 3600), (796179600, 7200), (811904400, 3600),
    (828234000, 7200), (846378000, 3600), (859683600, 7200), (877827600, 3600),
    (891133200, 7200), (909277200, 3600), (922582800, 7200), (941331600, 3600),
    (954032400, 7200), (972781200, 3600), (985482000, 7200), (1004230800, 3600),
    (1017536400, 7200), (1035680400, 3600), (1048986000, 7200), (1067130000, 3600),
    (1080435600, 7200), (1099184400, 3600), (1111885200, 7200), (1130634000, 3600),
    (1143334800, 7200), (1162083600, 3600), (1174784400, 7200), (1193533200, 3600),
    (1206838800, 7200), (1224982800, 3600), (1238288400, 7200), (1256432400, 3600),
    (1269738000, 7200), (1288486800, 3600), (1301187600, 7200), (1319936400, 3600),
    (1332637200, 7200), (1351386000, 3600), (1364691600, 7200), (1382835600, 3600),
    (1396141200, 7200), (1414285200, 3600), (1427590800, 7200), (1445734800, 3600),
    (1459040400, 7200), (1477789200, 3600), (1490490000, 7200), (1509238800, 3600),
    (1521939600, 7200), (1540688400, 3600), (1553994000, 7200), (1572138000, 3600),
    (1585443600, 7200), (1603587600, 3600), (1616893200, 7200), (1635642000, 3600),
    (1648342800, 7200), (1667091600, 3600), (1679792400, 7200), (1698541200, 3600),
    (1711846800, 7200), (1729990800, 3600), (1743296400, 7200), (1761440400, 3600),
    (1774746000, 7200), (1792890000, 3600), (1806195600, 7200), (1824944400, 3600),
    (1837645200, 7200), (1856394000, 3600), (1869094800, 7200), (1887843600, 3600),
    (1901149200, 7200), (1919293200, 3600), (1932598800, 7200), (1950742800, 3600),
    (1964048400, 7200), (1982797200, 3600), (1995498000, 7200), (2014246800, 3600),
    (2026947600, 7200), (2045696400, 3600), (2058397200, 7200), (2077146000, 3600),
    (2090451600, 7200), (2108595600, 3600), (2121901200, 7200), (2140045200, 3600)]

/-- The time of London. -/
def london : OffsetHistory where
  first := 0
  changes := [
    (-150933600, 3600), (-132184800, 0), (-119484000, 3600), (-100735200, 0), (-88034400, 3600),
    (-68680800, 0), (-59004000, 3600), (57722400, 0), (69818400, 3600), (89172000, 0),
    (101268000, 3600), (120621600, 0), (132717600, 3600), (152071200, 0), (164167200, 3600),
    (183520800, 0), (196221600, 3600), (214970400, 0), (227671200, 3600), (246420000, 0),
    (259120800, 3600), (278474400, 0), (290570400, 3600), (309924000, 0), (322020000, 3600),
    (341373600, 0), (354675600, 3600), (372819600, 0), (386125200, 3600), (404269200, 0),
    (417574800, 3600), (435718800, 0), (449024400, 3600), (467773200, 0), (481078800, 3600),
    (499222800, 0), (512528400, 3600), (530672400, 0), (543978000, 3600), (562122000, 0),
    (575427600, 3600), (593571600, 0), (606877200, 3600), (625626000, 0), (638326800, 3600),
    (657075600, 0), (670381200, 3600), (688525200, 0), (701830800, 3600), (719974800, 0),
    (733280400, 3600), (751424400, 0), (764730000, 3600), (782874000, 0), (796179600, 3600),
    (814323600, 0), (828234000, 3600), (846378000, 0), (859683600, 3600), (877827600, 0),
    (891133200, 3600), (909277200, 0), (922582800, 3600), (941331600, 0), (954032400, 3600),
    (972781200, 0), (985482000, 3600), (1004230800, 0), (1017536400, 3600), (1035680400, 0),
    (1048986000, 3600), (1067130000, 0), (1080435600, 3600), (1099184400, 0), (1111885200, 3600),
    (1130634000, 0), (1143334800, 3600), (1162083600, 0), (1174784400, 3600), (1193533200, 0),
    (1206838800, 3600), (1224982800, 0), (1238288400, 3600), (1256432400, 0), (1269738000, 3600),
    (1288486800, 0), (1301187600, 3600), (1319936400, 0), (1332637200, 3600), (1351386000, 0),
    (1364691600, 3600), (1382835600, 0), (1396141200, 3600), (1414285200, 0), (1427590800, 3600),
    (1445734800, 0), (1459040400, 3600), (1477789200, 0), (1490490000, 3600), (1509238800, 0),
    (1521939600, 3600), (1540688400, 0), (1553994000, 3600), (1572138000, 0), (1585443600, 3600),
    (1603587600, 0), (1616893200, 3600), (1635642000, 0), (1648342800, 3600), (1667091600, 0),
    (1679792400, 3600), (1698541200, 0), (1711846800, 3600), (1729990800, 0), (1743296400, 3600),
    (1761440400, 0), (1774746000, 3600), (1792890000, 0), (1806195600, 3600), (1824944400, 0),
    (1837645200, 3600), (1856394000, 0), (1869094800, 3600), (1887843600, 0), (1901149200, 3600),
    (1919293200, 0), (1932598800, 3600), (1950742800, 0), (1964048400, 3600), (1982797200, 0),
    (1995498000, 3600), (2014246800, 0), (2026947600, 3600), (2045696400, 0), (2058397200, 3600),
    (2077146000, 0), (2090451600, 3600), (2108595600, 0), (2121901200, 3600), (2140045200, 0)]

/-- The time of New York. -/
def newYork : OffsetHistory where
  first := -18000
  changes := [
    (-147891600, -14400), (-131565600, -18000), (-116442000, -14400), (-100116000, -18000),
    (-84387600, -14400), (-68666400, -18000), (-52938000, -14400), (-37216800, -18000),
    (-21488400, -14400), (-5767200, -18000), (9961200, -14400), (25682400, -18000),
    (41410800, -14400), (57736800, -18000), (73465200, -14400), (89186400, -18000),
    (104914800, -14400), (120636000, -18000), (126687600, -14400), (152085600, -18000),
    (162370800, -14400), (183535200, -18000), (199263600, -14400), (215589600, -18000),
    (230713200, -14400), (247039200, -18000), (262767600, -14400), (278488800, -18000),
    (294217200, -14400), (309938400, -18000), (325666800, -14400), (341388000, -18000),
    (357116400, -14400), (372837600, -18000), (388566000, -14400), (404892000, -18000),
    (420015600, -14400), (436341600, -18000), (452070000, -14400), (467791200, -18000),
    (483519600, -14400), (499240800, -18000), (514969200, -14400), (530690400, -18000),
    (544604400, -14400), (562140000, -18000), (576054000, -14400), (594194400, -18000),
    (607503600, -14400), (625644000, -18000), (638953200, -14400), (657093600, -18000),
    (671007600, -14400), (688543200, -18000), (702457200, -14400), (719992800, -18000),
    (733906800, -14400), (752047200, -18000), (765356400, -14400), (783496800, -18000),
    (796806000, -14400), (814946400, -18000), (828860400, -14400), (846396000, -18000),
    (860310000, -14400), (877845600, -18000), (891759600, -14400), (909295200, -18000),
    (923209200, -14400), (941349600, -18000), (954658800, -14400), (972799200, -18000),
    (986108400, -14400), (1004248800, -18000), (1018162800, -14400), (1035698400, -18000),
    (1049612400, -14400), (1067148000, -18000), (1081062000, -14400), (1099202400, -18000),
    (1112511600, -14400), (1130652000, -18000), (1143961200, -14400), (1162101600, -18000),
    (1173596400, -14400), (1194156000, -18000), (1205046000, -14400), (1225605600, -18000),
    (1236495600, -14400), (1257055200, -18000), (1268550000, -14400), (1289109600, -18000),
    (1299999600, -14400), (1320559200, -18000), (1331449200, -14400), (1352008800, -18000),
    (1362898800, -14400), (1383458400, -18000), (1394348400, -14400), (1414908000, -18000),
    (1425798000, -14400), (1446357600, -18000), (1457852400, -14400), (1478412000, -18000),
    (1489302000, -14400), (1509861600, -18000), (1520751600, -14400), (1541311200, -18000),
    (1552201200, -14400), (1572760800, -18000), (1583650800, -14400), (1604210400, -18000),
    (1615705200, -14400), (1636264800, -18000), (1647154800, -14400), (1667714400, -18000),
    (1678604400, -14400), (1699164000, -18000), (1710054000, -14400), (1730613600, -18000),
    (1741503600, -14400), (1762063200, -18000), (1772953200, -14400), (1793512800, -18000),
    (1805007600, -14400), (1825567200, -18000), (1836457200, -14400), (1857016800, -18000),
    (1867906800, -14400), (1888466400, -18000), (1899356400, -14400), (1919916000, -18000),
    (1930806000, -14400), (1951365600, -18000), (1962860400, -14400), (1983420000, -18000),
    (1994310000, -14400), (2014869600, -18000), (2025759600, -14400), (2046319200, -18000),
    (2057209200, -14400), (2077768800, -18000), (2088658800, -14400), (2109218400, -18000),
    (2120108400, -14400), (2140668000, -18000)]

/-- The time of Newfoundland. -/
def stJohns : OffsetHistory where
  first := -12600
  changes := [
    (-147897000, -9000), (-131571000, -12600), (-116447400, -9000), (-100121400, -12600),
    (-84393000, -9000), (-68671800, -12600), (-52943400, -9000), (-37222200, -12600),
    (-21493800, -9000), (-5772600, -12600), (9955800, -9000), (25677000, -12600),
    (41405400, -9000), (57731400, -12600), (73459800, -9000), (89181000, -12600),
    (104909400, -9000), (120630600, -12600), (136359000, -9000), (152080200, -12600),
    (167808600, -9000), (183529800, -12600), (199258200, -9000), (215584200, -12600),
    (230707800, -9000), (247033800, -12600), (262762200, -9000), (278483400, -12600),
    (294211800, -9000), (309933000, -12600), (325661400, -9000), (341382600, -12600),
    (357111000, -9000), (372832200, -12600), (388560600, -9000), (404886600, -12600),
    (420010200, -9000), (436336200, -12600), (452064600, -9000), (467785800, -12600),
    (483514200, -9000), (499235400, -12600), (514963800, -9000), (530685000, -12600),
    (544591860, -9000), (562127460, -12600), (576041460, -5400), (594178260, -12600),
    (607491060, -9000), (625631460, -12600), (638940660, -9000), (657081060, -12600),
    (670995060, -9000), (688530660, -12600), (702444660, -9000), (719980260, -12600),
    (733894260, -9000), (752034660, -12600), (765343860, -9000), (783484260, -12600),
    (796793460, -9000), (814933860, -12600), (828847860, -9000), (846383460, -12600),
    (860297460, -9000), (877833060, -12600), (891747060, -9000), (909282660, -12600),
    (923196660, -9000), (941337060, -12600), (954646260, -9000), (972786660, -12600),
    (986095860, -9000), (1004236260, -12600), (1018150260, -9000), (1035685860, -12600),
    (1049599860, -9000), (1067135460, -12600), (1081049460, -9000), (1099189860, -12600),
    (1112499060, -9000), (1130639460, -12600), (1143948660, -9000), (1162089060, -12600),
    (1173583860, -9000), (1194143460, -12600), (1205033460, -9000), (1225593060, -12600),
    (1236483060, -9000), (1257042660, -12600), (1268537460, -9000), (1289097060, -12600),
    (1299987060, -9000), (1320553800, -12600), (1331443800, -9000), (1352003400, -12600),
    (1362893400, -9000), (1383453000, -12600), (1394343000, -9000), (1414902600, -12600),
    (1425792600, -9000), (1446352200, -12600), (1457847000, -9000), (1478406600, -12600),
    (1489296600, -9000), (1509856200, -12600), (1520746200, -9000), (1541305800, -12600),
    (1552195800, -9000), (1572755400, -12600), (1583645400, -9000), (1604205000, -12600),
    (1615699800, -9000), (1636259400, -12600), (1647149400, -9000), (1667709000, -12600),
    (1678599000, -9000), (1699158600, -12600), (1710048600, -9000), (1730608200, -12600),
    (1741498200, -9000), (1762057800, -12600), (1772947800, -9000), (1793507400, -12600),
    (1805002200, -9000), (1825561800, -12600), (1836451800, -9000), (1857011400, -12600),
    (1867901400, -9000), (1888461000, -12600), (1899351000, -9000), (1919910600, -12600),
    (1930800600, -9000), (1951360200, -12600), (1962855000, -9000), (1983414600, -12600),
    (1994304600, -9000), (2014864200, -12600), (2025754200, -9000), (2046313800, -12600),
    (2057203800, -9000), (2077763400, -12600), (2088653400, -9000), (2109213000, -12600),
    (2120103000, -9000), (2140662600, -12600)]

/-- The time of São Paulo, without summer time since 2019. -/
def saoPaulo : OffsetHistory where
  first := -10800
  changes := [
    (-155163600, -7200), (-150069600, -10800), (-128898000, -7200), (-121125600, -10800),
    (-99954000, -7200), (-89589600, -10800), (-68418000, -7200), (-57967200, -10800),
    (499748400, -7200), (511236000, -10800), (530593200, -7200), (540266400, -10800),
    (562129200, -7200), (571197600, -10800), (592974000, -7200), (602042400, -10800),
    (624423600, -7200), (634701600, -10800), (656478000, -7200), (666756000, -10800),
    (687927600, -7200), (697600800, -10800), (719982000, -7200), (728445600, -10800),
    (750826800, -7200), (761709600, -10800), (782276400, -7200), (793159200, -10800),
    (813726000, -7200), (824004000, -10800), (844570800, -7200), (856058400, -10800),
    (876106800, -7200), (888717600, -10800), (908074800, -7200), (919562400, -10800),
    (938919600, -7200), (951616800, -10800), (970974000, -7200), (982461600, -10800),
    (1003028400, -7200), (1013911200, -10800), (1036292400, -7200), (1045360800, -10800),
    (1066532400, -7200), (1076810400, -10800), (1099364400, -7200), (1108864800, -10800),
    (1129431600, -7200), (1140314400, -10800), (1162695600, -7200), (1172368800, -10800),
    (1192330800, -7200), (1203213600, -10800), (1224385200, -7200), (1234663200, -10800),
    (1255834800, -7200), (1266717600, -10800), (1287284400, -7200), (1298167200, -10800),
    (1318734000, -7200), (1330221600, -10800), (1350788400, -7200), (1361066400, -10800),
    (1382238000, -7200), (1392516000, -10800), (1413687600, -7200), (1424570400, -10800),
    (1445137200, -7200), (1456020000, -10800), (1476586800, -7200), (1487469600, -10800),
    (1508036400, -7200), (1518919200, -10800), (1541300400, -7200), (1550368800, -10800)]

/-- The time of Lord Howe Island, whose summer time moves by half an hour. -/
def lordHowe : OffsetHistory where
  first := 36000
  changes := [
    (352216800, 37800), (372785400, 41400), (384273000, 37800), (404839800, 41400),
    (415722600, 37800), (436289400, 41400), (447172200, 37800), (467739000, 41400),
    (478621800, 37800), (499188600, 39600), (511282800, 37800), (530033400, 39600),
    (542732400, 37800), (562087800, 39600), (574786800, 37800), (594142200, 39600),
    (606236400, 37800), (625591800, 39600), (636476400, 37800), (657041400, 39600),
    (667926000, 37800), (688491000, 39600), (699375600, 37800), (719940600, 39600),
    (731430000, 37800), (751995000, 39600), (762879600, 37800), (783444600, 39600),
    (794329200, 37800), (814894200, 39600), (828198000, 37800), (846343800, 39600),
    (859647600, 37800), (877793400, 39600), (891097200, 37800), (909243000, 39600),
    (922546800, 37800), (941297400, 39600), (953996400, 37800), (967303800, 39600),
    (985446000, 37800), (1004196600, 39600), (1017500400, 37800), (1035646200, 39600),
    (1048950000, 37800), (1067095800, 39600), (1080399600, 37800), (1099150200, 39600),
    (1111849200, 37800), (1130599800, 39600), (1143903600, 37800), (1162049400, 39600),
    (1174748400, 37800), (1193499000, 39600), (1207407600, 37800), (1223134200, 39600),
    (1238857200, 37800), (1254583800, 39600), (1270306800, 37800), (1286033400, 39600),
    (1301756400, 37800), (1317483000, 39600), (1333206000, 37800), (1349537400, 39600),
    (1365260400, 37800), (1380987000, 39600), (1396710000, 37800), (1412436600, 39600),
    (1428159600, 37800), (1443886200, 39600), (1459609200, 37800), (1475335800, 39600),
    (1491058800, 37800), (1506785400, 39600), (1522508400, 37800), (1538839800, 39600),
    (1554562800, 37800), (1570289400, 39600), (1586012400, 37800), (1601739000, 39600),
    (1617462000, 37800), (1633188600, 39600), (1648911600, 37800), (1664638200, 39600),
    (1680361200, 37800), (1696087800, 39600), (1712415600, 37800), (1728142200, 39600),
    (1743865200, 37800), (1759591800, 39600), (1775314800, 37800), (1791041400, 39600),
    (1806764400, 37800), (1822491000, 39600), (1838214000, 37800), (1853940600, 39600),
    (1869663600, 37800), (1885995000, 39600), (1901718000, 37800), (1917444600, 39600),
    (1933167600, 37800), (1948894200, 39600), (1964617200, 37800), (1980343800, 39600),
    (1996066800, 37800), (2011793400, 39600), (2027516400, 37800), (2043243000, 39600),
    (2058966000, 37800), (2075297400, 39600), (2091020400, 37800), (2106747000, 39600),
    (2122470000, 37800), (2138196600, 39600)]

/-- The time of Kiritimati, which changed sides of the date line in 1994. -/
def kiritimati : OffsetHistory where
  first := -38400
  changes := [
    (307622400, -36000), (788868000, 50400)]

/-- The time of the Chatham Islands. -/
def chatham : OffsetHistory where
  first := 45900
  changes := [
    (152632800, 49500), (162309600, 45900), (183477600, 49500), (194968800, 45900),
    (215532000, 49500), (226418400, 45900), (246981600, 49500), (257868000, 45900),
    (278431200, 49500), (289317600, 45900), (309880800, 49500), (320767200, 45900),
    (341330400, 49500), (352216800, 45900), (372780000, 49500), (384271200, 45900),
    (404834400, 49500), (415720800, 45900), (436284000, 49500), (447170400, 45900),
    (467733600, 49500), (478620000, 45900), (499183200, 49500), (510069600, 45900),
    (530632800, 49500), (541519200, 45900), (562082400, 49500), (573573600, 45900),
    (594136800, 49500), (605023200, 45900), (623772000, 49500), (637682400, 45900),
    (655221600, 49500), (669132000, 45900), (686671200, 49500), (700581600, 45900),
    (718120800, 49500), (732636000, 45900), (749570400, 49500), (764085600, 45900),
    (781020000, 49500), (795535200, 45900), (812469600, 49500), (826984800, 45900),
    (844524000, 49500), (858434400, 45900), (875973600, 49500), (889884000, 45900),
    (907423200, 49500), (921938400, 45900), (938872800, 49500), (953388000, 45900),
    (970322400, 49500), (984837600, 45900), (1002376800, 49500), (1016287200, 45900),
    (1033826400, 49500), (1047736800, 45900), (1065276000, 49500), (1079791200, 45900),
    (1096725600, 49500), (1111240800, 45900), (1128175200, 49500), (1142690400, 45900),
    (1159624800, 49500), (1174140000, 45900), (1191074400, 49500), (1207404000, 45900),
    (1222524000, 49500), (1238853600, 45900), (1253973600, 49500), (1270303200, 45900),
    (1285423200, 49500), (1301752800, 45900), (1316872800, 49500), (1333202400, 45900),
    (1348927200, 49500), (1365256800, 45900), (1380376800, 49500), (1396706400, 45900),
    (1411826400, 49500), (1428156000, 45900), (1443276000, 49500), (1459605600, 45900),
    (1474725600, 49500), (1491055200, 45900), (1506175200, 49500), (1522504800, 45900),
    (1538229600, 49500), (1554559200, 45900), (1569679200, 49500), (1586008800, 45900),
    (1601128800, 49500), (1617458400, 45900), (1632578400, 49500), (1648908000, 45900),
    (1664028000, 49500), (1680357600, 45900), (1695477600, 49500), (1712412000, 45900),
    (1727532000, 49500), (1743861600, 45900), (1758981600, 49500), (1775311200, 45900),
    (1790431200, 49500), (1806760800, 45900), (1821880800, 49500), (1838210400, 45900),
    (1853330400, 49500), (1869660000, 45900), (1885384800, 49500), (1901714400, 45900),
    (1916834400, 49500), (1933164000, 45900), (1948284000, 49500), (1964613600, 45900),
    (1979733600, 49500), (1996063200, 45900), (2011183200, 49500), (2027512800, 45900),
    (2042632800, 49500), (2058962400, 45900), (2074687200, 49500), (2091016800, 45900),
    (2106136800, 49500), (2122466400, 45900), (2137586400, 49500)]

end OffsetHistory

/-- The zones by name. Names are told apart by the case of their letters. -/
def zoneTable : List (String × OffsetHistory) := [
  ("UTC", .constant 0),
  ("Etc/UTC", .constant 0),
  ("GMT", .constant 0),
  ("EST", .constant (-18000)),
  ("Etc/GMT+12", .constant (-43200)),
  ("Japan", .japanese),
  ("Asia/Tokyo", .japanese),
  ("Asia/Kolkata", .indian),
  ("Asia/Kathmandu", .nepalese),
  ("Europe/Berlin", .berlin),
  ("Europe/London", .london),
  ("US/Eastern", .newYork),
  ("America/New_York", .newYork),
  ("America/St_Johns", .stJohns),
  ("America/Sao_Paulo", .saoPaulo),
  ("Australia/Lord_Howe", .lordHowe),
  ("Pacific/Kiritimati", .kiritimati),
  ("Pacific/Chatham", .chatham)]

end TaskAutomation
