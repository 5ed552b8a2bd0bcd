/-
The parts that characters play where text is cut into what a reader sees as one character, into
words and into sentences. Each of the three cuts has a table of its own, and names for the parts.
-/
import Wireflow.Text.Runs

namespace Wireflow.Text

/-- A table of parts: the runs of one part from code point 0 on, and the names of the parts, each
list of names with the word that stands in the runs. -/
structure BreakTable where
  runs : List Run
  names : List (List String × String)

/-- The code points that play the part of a name. -/
def BreakTable.find? (t : BreakTable) (name : String) : Option CharSet :=
  (t.names.find? fun e => e.1.contains name).map fun e => Run.set (fun word => word == e.2) t.runs

/-- The parts of characters in what a reader sees as one character, from code point 0 on. -/
def graphemeText : List String :=
  ["10Cn1Lf2Cn1Cr18Cn95Xx33Cn13Xx1Cn594Xx112Ex275Xx7Ex263Xx45Ex1Xx1Ex1Xx2Ex1Xx2Ex1Xx1Ex56Xx6Pp",
   "10Xx11Ex1Xx1Cn46Xx21Ex16Xx1Ex101Xx7Ex1Pp1Xx6Ex2Xx2Ex1Xx4Ex33Xx1Pp1Xx1Ex30Xx27Ex91Xx11Ex58Xx",
   "9Ex9Xx1Ex24Xx4Ex1Xx9Ex1Xx3Ex1Xx5Ex43Xx3Ex52Xx2Pp5Xx9Ex42Xx24Ex1Pp32Ex1Sm54Xx1Ex1Sm1Ex1Xx3Sm",
   "8Ex4Sm1Ex2Sm1Xx7Ex10Xx2Ex29Xx1Ex2Sm56Xx1Ex1Xx1Ex2Sm4Ex2Xx2Sm2Xx2Sm1Ex9Xx1Ex10Xx2Ex26Xx1Ex2Xx",
   "2Ex1Sm56Xx1Ex1Xx3Sm2Ex4Xx2Ex2Xx3Ex3Xx1Ex30Xx2Ex3Xx1Ex11Xx2Ex1Sm56Xx1Ex1Xx3Sm5Ex1Xx2Ex1Sm1Xx",
   "2Sm1Ex20Xx2Ex22Xx6Ex1Xx1Ex2Sm56Xx1Ex1Xx2Ex1Sm4Ex2Xx2Sm2Xx2Sm1Ex7Xx3Ex10Xx2Ex30Xx1Ex59Xx1Ex1Sm",
   "1Ex2Sm3Xx3Sm1Xx3Sm1Ex9Xx1Ex40Xx1Ex3Sm1Ex55Xx1Ex1Xx3Ex4Sm1Xx3Ex1Xx4Ex7Xx2Ex11Xx2Ex29Xx1Ex2Sm",
   "56Xx1Ex1Xx1Sm2Ex1Sm1Ex2Sm1Xx3Ex1Xx4Ex7Xx2Ex11Xx2Ex15Xx1Sm12Xx2Ex2Sm55Xx2Ex1Xx1Ex2Sm4Ex1Xx3Sm",
   "1Xx3Sm1Ex1Pp8Xx1Ex10Xx2Ex29Xx1Ex2Sm70Xx1Ex4Xx1Ex2Sm3Ex1Xx1Ex1Xx7Sm1Ex18Xx2Sm61Xx1Ex1Xx1Sm7Ex",
   "12Xx8Ex98Xx1Ex1Xx1Sm9Ex11Xx7Ex73Xx2Ex27Xx1Ex1Xx1Ex1Xx1Ex4Xx2Sm49Xx14Ex1Sm5Ex1Xx2Ex5Xx11Ex1Xx",
   "36Ex9Xx1Ex102Xx4Ex1Sm6Ex1Xx2Ex2Sm2Ex23Xx2Sm2Ex4Xx3Ex16Xx4Ex13Xx1Ex1Xx1Sm2Ex6Xx1Ex15Xx1Ex98Xx",
   "96L72V88T349Xx3Ex946Xx4Ex28Xx3Ex29Xx2Ex30Xx2Ex64Xx2Ex1Sm7Ex8Sm1Ex2Sm11Ex9Xx1Ex45Xx3Ex1Cn1Ex",
   "117Xx2Ex34Xx1Ex118Xx3Ex4Sm2Ex3Sm4Xx2Sm1Ex6Sm3Ex219Xx2Ex2Sm1Ex57Xx1Sm1Ex1Sm7Ex1Xx1Ex1Xx1Ex2Xx",
   "8Ex6Sm10Ex2Xx1Ex48Xx31Ex49Xx4Ex1Sm47Xx10Ex4Sm3Ex38Xx9Ex12Xx2Ex1Sm30Xx1Sm4Ex2Sm6Ex56Xx1Ex1Sm",
   "2Ex3Sm1Ex1Sm5Ex48Xx8Sm8Ex2Sm2Ex152Xx3Ex1Xx13Ex1Sm7Ex4Xx1Ex6Xx1Ex2Xx1Sm2Ex198Xx64Ex523Xx1Cn1Ex",
   "1Zwj2Cn24Xx7Cn49Xx16Cn96Xx33Ex3070Xx3Ex141Xx1Ex96Xx32Ex554Xx6Ex105Xx2Ex30164Xx4Ex1Xx10Ex32Xx",
   "2Ex80Xx2Ex272Xx1Ex3Xx1Ex4Xx1Ex23Xx2Sm2Ex1Sm4Xx1Ex83Xx2Sm50Xx16Sm2Ex26Xx18Ex13Xx1Ex38Xx8Ex25Xx",
   "11Ex1Sm1Ex12Xx29L3Xx3Ex1Sm47Xx1Ex2Sm4Ex2Sm2Ex2Sm1Ex36Xx1Ex67Xx6Ex2Sm2Ex2Sm2Ex12Xx1Ex8Xx1Ex1Sm",
   "46Xx1Ex51Xx1Ex1Xx3Ex2Xx2Ex5Xx2Ex1Xx1Ex41Xx1Sm2Ex2Sm5Xx1Sm1Ex236Xx2Sm1Ex2Sm1Ex2Sm1Xx1Sm1Ex18Xx",
   "1Lv27Lvt1Lv27Lvt1Lv27Lvt1Lv27Lvt1Lv27Lvt1Lv27Lvt1Lv27Lvt1Lv27Lvt1Lv27Lvt1Lv27Lvt1Lv27Lvt1Lv",
   "27Lvt1Lv27Lvt1Lv27Lvt1Lv27Lvt1Lv27Lvt1Lv27Lvt1Lv27Lvt1Lv27Lvt1Lv27Lvt1Lv27Lvt1Lv27Lvt1Lv27Lvt",
   "1Lv27Lvt1Lv27Lvt1Lv27Lvt1Lv27Lvt1Lv27Lvt1Lv27Lvt1Lv27Lvt1Lv27Lvt1Lv27Lvt1Lv27Lvt1Lv27Lvt1Lv",
   "27Lvt1Lv27Lvt1Lv27Lvt1Lv27Lvt1Lv27Lvt1Lv27Lvt1Lv27Lvt1Lv27Lvt1Lv27Lvt1Lv27Lvt1Lv27Lvt1Lv27Lvt",
   "1Lv27Lvt1Lv27Lvt1Lv27Lvt1Lv27Lvt1Lv27Lvt1Lv27Lvt1Lv27Lvt1Lv27Lvt1Lv27Lvt1Lv27Lvt1Lv27Lvt1Lv",
   "27Lvt1Lv27Lvt1Lv27Lvt1Lv27Lvt1Lv27Lvt1Lv27Lvt1Lv27Lvt1Lv27Lvt1Lv27Lvt1Lv27Lvt1Lv27Lvt1Lv27Lvt",
   "1Lv27Lvt1Lv27Lvt1Lv27Lvt1Lv27Lvt1Lv27Lvt1Lv27Lvt1Lv27Lvt1Lv27Lvt1Lv27Lvt1Lv27Lvt1Lv27Lvt1Lv",
   "27Lvt1Lv27Lvt1Lv27Lvt1Lv27Lvt1Lv27Lvt1Lv27Lvt1Lv27Lvt1Lv27Lvt1Lv27Lvt1Lv27Lvt1Lv27Lvt1Lv27Lvt",
   "1Lv27Lvt1Lv27Lvt1Lv27Lvt1Lv27Lvt1Lv27Lvt1Lv27Lvt1Lv27Lvt1Lv27Lvt1Lv27Lvt1Lv27Lvt1Lv27Lvt1Lv",
   "27Lvt1Lv27Lvt1Lv27Lvt1Lv27Lvt1Lv27Lvt1Lv27Lvt1Lv27Lvt1Lv27Lvt1Lv27Lvt1Lv27Lvt1Lv27Lvt1Lv27Lvt",
   "1Lv27Lvt1Lv27Lvt1Lv27Lvt1Lv27Lvt1Lv27Lvt1Lv27Lvt1Lv27Lvt1Lv27Lvt1Lv27Lvt1Lv27Lvt1Lv27Lvt1Lv",
   "27Lvt1Lv27Lvt1Lv27Lvt1Lv27Lvt1Lv27Lvt1Lv27Lvt1Lv27Lvt1Lv27Lvt1Lv27Lvt1Lv27Lvt1Lv27Lvt1Lv27Lvt",
   "1Lv27Lvt1Lv27Lvt1Lv27Lvt1Lv27Lvt1Lv27Lvt1Lv27Lvt1Lv27Lvt1Lv27Lvt1Lv27Lvt1Lv27Lvt1Lv27Lvt1Lv",
   "27Lvt1Lv27Lvt1Lv27Lvt1Lv27Lvt1Lv27Lvt1Lv27Lvt1Lv27Lvt1Lv27Lvt1Lv27Lvt1Lv27Lvt1Lv27Lvt1Lv27Lvt",
   "1Lv27Lvt1Lv27Lvt1Lv27Lvt1Lv27Lvt1Lv27Lvt1Lv27Lvt1Lv27Lvt1Lv27Lvt1Lv27Lvt1Lv27Lvt1Lv27Lvt1Lv",
   "27Lvt1Lv27Lvt1Lv27Lvt1Lv27Lvt1Lv27Lvt1Lv27Lvt1Lv27Lvt1Lv27Lvt1Lv27Lvt1Lv27Lvt1Lv27Lvt1Lv27Lvt",
   "1Lv27Lvt1Lv27Lvt1Lv27Lvt1Lv27Lvt1Lv27Lvt1Lv27Lvt1Lv27Lvt1Lv27Lvt1Lv27Lvt1Lv27Lvt1Lv27Lvt1Lv",
   "27Lvt1Lv27Lvt1Lv27Lvt1Lv27Lvt1Lv27Lvt1Lv27Lvt1Lv27Lvt1Lv27Lvt1Lv27Lvt1Lv27Lvt1Lv27Lvt1Lv27Lvt",
   "1Lv27Lvt1Lv27Lvt1Lv27Lvt1Lv27Lvt1Lv27Lvt1Lv27Lvt1Lv27Lvt1Lv27Lvt1Lv27Lvt1Lv27Lvt1Lv27Lvt1Lv",
   "27Lvt1Lv27Lvt1Lv27Lvt1Lv27Lvt1Lv27Lvt1Lv27Lvt1Lv27Lvt1Lv27Lvt1Lv27Lvt1Lv27Lvt1Lv27Lvt1Lv27Lvt",
   "1Lv27Lvt1Lv27Lvt1Lv27Lvt1Lv27Lvt1Lv27Lvt1Lv27Lvt1Lv27Lvt1Lv27Lvt1Lv27Lvt1Lv27Lvt1Lv27Lvt1Lv",
   "27Lvt1Lv27Lvt1Lv27Lvt1Lv27Lvt1Lv27Lvt1Lv27Lvt1Lv27Lvt1Lv27Lvt1Lv27Lvt1Lv27Lvt1Lv27Lvt1Lv27Lvt",
   "1Lv27Lvt1Lv27Lvt1Lv27Lvt1Lv27Lvt1Lv27Lvt1Lv27Lvt1Lv27Lvt1Lv27Lvt1Lv27Lvt1Lv27Lvt1Lv27Lvt1Lv",
   "27Lvt1Lv27Lvt1Lv27Lvt1Lv27Lvt1Lv27Lvt1Lv27Lvt1Lv27Lvt1Lv27Lvt1Lv27Lvt1Lv27Lvt1Lv27Lvt1Lv27Lvt",
   "1Lv27Lvt1Lv27Lvt1Lv27Lvt1Lv27Lvt1Lv27Lvt1Lv27Lvt1Lv27Lvt1Lv27Lvt1Lv27Lvt1Lv27Lvt1Lv27Lvt1Lv",
   "27Lvt1Lv27Lvt1Lv27Lvt1Lv27Lvt1Lv27Lvt1Lv27Lvt1Lv27Lvt1Lv27Lvt1Lv27Lvt1Lv27Lvt1Lv27Lvt1Lv27Lvt",
   "1Lv27Lvt1Lv27Lvt1Lv27Lvt1Lv27Lvt1Lv27Lvt1Lv27Lvt1Lv27Lvt1Lv27Lvt1Lv27Lvt1Lv27Lvt1Lv27Lvt1Lv",
   "27Lvt1Lv27Lvt1Lv27Lvt1Lv27Lvt1Lv27Lvt1Lv27Lvt1Lv27Lvt1Lv27Lvt1Lv27Lvt1Lv27Lvt1Lv27Lvt1Lv27Lvt",
   "1Lv27Lvt1Lv27Lvt1Lv27Lvt1Lv27Lvt1Lv27Lvt1Lv27Lvt1Lv27Lvt1Lv27Lvt1Lv27Lvt1Lv27Lvt1Lv27Lvt1Lv",
   "27Lvt1Lv27Lvt1Lv27Lvt1Lv27Lvt1Lv27Lvt1Lv27Lvt1Lv27Lvt1Lv27Lvt1Lv27Lvt1Lv27Lvt1Lv27Lvt1Lv27Lvt",
   "1Lv27Lvt1Lv27Lvt1Lv27Lvt1Lv27Lvt1Lv27Lvt1Lv27Lvt1Lv27Lvt1Lv27Lvt1Lv27Lvt1Lv27Lvt1Lv27Lvt1Lv",
   "27Lvt1Lv27Lvt1Lv27Lvt1Lv27Lvt1Lv27Lvt1Lv27Lvt1Lv27Lvt1Lv27Lvt1Lv27Lvt1Lv27Lvt1Lv27Lvt1Lv27Lvt",
   "1Lv27Lvt1Lv27Lvt1Lv27Lvt1Lv27Lvt1Lv27Lvt1Lv27Lvt1Lv27Lvt1Lv27Lvt1Lv27Lvt1Lv27Lvt1Lv27Lvt1Lv",
   "27Lvt1Lv27Lvt1Lv27Lvt1Lv27Lvt1Lv27Lvt1Lv27Lvt1Lv27Lvt1Lv27Lvt1Lv27Lvt1Lv27Lvt1Lv27Lvt1Lv27Lvt",
   "1Lv27Lvt1Lv27Lvt1Lv27Lvt1Lv27Lvt1Lv27Lvt1Lv27Lvt1Lv27Lvt1Lv27Lvt12Xx23V4Xx49T8994Xx1Ex737Xx",
   "16Ex16Xx16Ex207Xx1Cn158Xx2Ex80Xx12Cn513Xx1Ex226Xx1Ex149Xx5Ex1670Xx3Ex1Xx2Ex5Xx4Ex40Xx3Ex4Xx",
   "1Ex165Xx2Ex573Xx4Ex65Xx5Ex317Xx2Ex79Xx4Ex70Xx11Ex49Xx4Ex122Xx1Sm1Ex1Sm53Xx15Ex41Xx1Ex2Xx2Ex",
   "10Xx3Ex1Sm45Xx3Sm4Ex2Sm2Ex2Xx1Pp4Xx1Ex10Xx1Pp50Xx3Ex36Xx5Ex1Sm8Ex16Xx2Sm44Xx1Ex12Xx2Ex1Sm48Xx",
   "3Sm9Ex1Sm1Ex1Xx2Pp5Xx4Ex1Xx1Sm1Ex92Xx3Sm3Ex2Sm4Ex6Xx1Ex2Xx1Ex157Xx1Ex3Sm8Ex21Xx2Ex2Sm55Xx2Ex",
   "1Xx1Ex1Sm1Ex4Sm2Xx2Sm2Xx2Sm1Ex9Xx1Ex10Xx2Sm2Xx7Ex3Xx5Ex67Xx1Ex2Sm6Ex1Xx1Ex2Xx1Ex1Xx3Ex1Sm1Xx",
   "2Sm3Ex1Pp1Ex14Xx2Ex82Xx3Sm8Ex2Sm3Ex1Sm1Ex23Xx1Ex81Xx1Ex2Sm6Ex1Sm1Ex2Sm1Ex1Sm2Ex1Sm2Ex235Xx1Ex",
   "2Sm4Ex2Xx4Sm2Ex1Sm2Ex27Xx2Ex82Xx3Sm8Ex2Sm1Ex1Sm2Ex106Xx1Ex1Sm1Ex2Sm8Ex101Xx1Ex1Sm1Ex2Xx4Ex1Sm",
   "5Ex256Xx3Sm9Ex1Sm2Ex245Xx1Ex5Sm1Xx2Sm2Xx4Ex1Pp1Sm1Pp1Sm1Ex141Xx3Sm4Ex2Xx2Ex4Sm1Ex3Xx1Sm28Xx",
   "10Ex40Xx6Ex1Sm1Pp4Ex8Xx1Ex9Xx6Ex2Sm3Ex40Xx6Pp13Ex1Sm2Ex405Xx1Sm7Ex1Xx6Ex1Sm1Ex82Xx22Ex1Xx1Sm",
   "7Ex1Sm2Ex1Sm2Ex122Xx6Ex3Xx1Ex1Xx2Ex1Xx7Ex1Pp1Ex66Xx5Sm1Xx2Ex1Xx2Sm1Ex1Sm1Ex347Xx2Ex2Sm9Xx2Ex",
   "1Pp1Sm48Xx2Sm5Ex3Xx2Sm3Ex23Xx1Ex5333Xx16Cn1Ex6Xx15Ex11464Xx12Ex3Sm3Ex2496Xx5Ex59Xx7Ex556Xx1V",
   "3Xx4V484Xx1Ex1Xx55Sm7Xx4Ex81Xx1Ex11Xx2Ex19627Xx2Ex1Xx4Cn4700Xx46Ex2Xx23Ex542Xx5Ex3Xx6Ex8Cn8Ex",
   "2Xx7Ex30Xx4Ex148Xx3Ex1979Xx55Ex4Xx50Ex8Xx1Ex14Xx1Ex22Xx5Ex1Xx15Ex1360Xx7Ex1Xx17Ex2Xx7Ex1Xx2Ex",
   "1Xx5Ex100Xx1Ex160Xx7Ex375Xx1Ex61Xx4Ex508Xx4Ex254Xx2Ex736Xx7Ex109Xx7Ex2203Xx26Ri507Xx5Ex",
   "789504Xx32Cn96Ex128Cn240Ex3600Cn192512Xx"]

/-- The cut into what a reader sees as one character. -/
def graphemeBreak : BreakTable where
  runs := readRuns 0 [] (graphemeText.flatMap String.toList)
  names :=
    [(["cn", "control"], "Cn"), (["cr"], "Cr"), (["ex", "extend"], "Ex"), (["l"], "L"),
     (["lf"], "Lf"), (["lv"], "Lv"), (["lvt"], "Lvt"), (["pp", "prepend"], "Pp"),
     (["regionalindicator", "ri"], "Ri"), (["sm", "spacingmark"], "Sm"), (["t"], "T"),
     (["v"], "V"), (["zwj"], "Zwj")]

/-- The parts of characters in words, from code point 0 on. -/
def wordText : List String :=
  ["10Xx1Lf2Nl1Cr18Xx1Wsegspace1Xx1Dq4Xx1Sq4Xx1Mn1Xx1Mb1Xx10Nu1Ml1Mn5Xx26Le4Xx1Ex1Xx26Le10Xx1Nl",
   "36Xx1Le2Xx1Fo7Xx1Le1Xx1Ml2Xx1Le5Xx23Le1Xx31Le1Xx480Le6Xx34Le112Extend5Le1Xx2Le2Xx4Le1Mn1Le6Xx",
   "1Le1Ml3Le1Xx1Le1Xx20Le1Xx83Le1Xx139Le1Xx7Extend166Le1Xx38Le2Xx4Le1Xx1Le1Ml41Le1Mn1Le6Xx",
   "45Extend1Xx1Extend1Xx2Extend1Xx2Extend1Xx1Extend8Xx27Hl4Xx4Hl1Le1Ml11Xx6Nu6Xx2Mn2Xx11Extend",
   "1Xx1Fo3Xx43Le21Extend10Nu1Xx1Nu1Mn1Xx2Le1Extend99Le1Xx1Le7Extend1Nu1Xx6Extend2Le2Extend1Xx",
   "4Extend2Le10Nu3Le2Xx1Le15Xx2Le1Extend30Le27Extend2Xx89Le11Extend1Le14Xx10Nu33Le9Extend2Le2Xx",
   "1Mn1Xx1Le2Xx1Extend2Xx22Le4Extend1Le9Extend1Le3Extend1Le5Extend18Xx25Le3Extend4Xx11Le5Xx24Le",
   "1Xx6Le1Xx2Nu5Xx9Extend42Le24Extend1Nu33Extend54Le3Extend1Le18Extend1Le7Extend10Le2Extend2Xx",
   "10Nu1Xx16Le3Extend1Xx8Le2Xx2Le2Xx22Le1Xx7Le1Xx1Le3Xx4Le2Xx1Extend1Le7Extend2Xx2Extend2Xx",
   "3Extend1Le8Xx1Extend4Xx2Le1Xx3Le2Extend2Xx10Nu2Le10Xx1Le1Xx1Extend2Xx3Extend1Xx6Le4Xx2Le2Xx",
   "22Le1Xx7Le1Xx2Le1Xx2Le1Xx2Le2Xx1Extend1Xx5Extend4Xx2Extend2Xx3Extend3Xx1Extend7Xx4Le1Xx1Le7Xx",
   "10Nu2Extend3Le1Extend11Xx3Extend1Xx9Le1Xx3Le1Xx22Le1Xx7Le1Xx2Le1Xx5Le2Xx1Extend1Le8Extend1Xx",
   "3Extend1Xx3Extend2Xx1Le15Xx2Le2Extend2Xx10Nu9Xx1Le6Extend1Xx3Extend1Xx8Le2Xx2Le2Xx22Le1Xx7Le",
   "1Xx2Le1Xx5Le2Xx1Extend1Le7Extend2Xx2Extend2Xx3Extend7Xx3Extend4Xx2Le1Xx3Le2Extend2Xx10Nu1Xx",
   "1Le16Xx1Extend1Le1Xx6Le3Xx3Le1Xx4Le3Xx2Le1Xx1Le1Xx2Le3Xx2Le3Xx3Le3Xx12Le4Xx5Extend3Xx3Extend",
   "1Xx4Extend2Xx1Le6Xx1Extend14Xx10Nu16Xx5Extend8Le1Xx3Le1Xx23Le1Xx16Le2Xx1Extend1Le7Extend1Xx",
   "3Extend1Xx4Extend7Xx2Extend1Xx3Le2Xx1Le2Xx2Le2Extend2Xx10Nu16Xx1Le3Extend1Xx8Le1Xx3Le1Xx23Le",
   "1Xx10Le1Xx5Le2Xx1Extend1Le7Extend1Xx3Extend1Xx4Extend7Xx2Extend6Xx2Le1Xx2Le2Extend2Xx10Nu1Xx",
   "2Le1Extend12Xx4Extend9Le1Xx3Le1Xx41Le2Extend1Le7Extend1Xx3Extend1Xx4Extend1Le5Xx3Le1Extend7Xx",
   "3Le2Extend2Xx10Nu10Xx6Le1Xx3Extend1Xx18Le3Xx24Le1Xx9Le1Xx1Le2Xx7Le3Xx1Extend4Xx6Extend1Xx",
   "1Extend1Xx8Extend6Xx10Nu2Xx2Extend61Xx1Extend2Xx7Extend12Xx8Extend1Xx10Nu87Xx1Extend2Xx",
   "9Extend11Xx7Extend1Xx10Nu38Xx1Le23Xx2Extend6Xx10Nu11Xx1Extend1Xx1Extend1Xx1Extend4Xx2Extend",
   "8Le1Xx36Le4Xx20Extend1Xx2Extend5Le11Extend1Xx36Extend9Xx1Extend100Xx20Extend1Xx10Nu12Xx",
   "4Extend4Xx3Extend1Xx3Extend2Xx7Extend3Xx4Extend13Xx12Extend1Xx1Extend10Nu4Extend2Xx38Le1Xx1Le",
   "5Xx1Le2Xx43Le1Xx333Le1Xx4Le2Xx7Le1Xx1Le1Xx4Le2Xx41Le1Xx4Le2Xx33Le1Xx4Le2Xx7Le1Xx1Le1Xx4Le2Xx",
   "15Le1Xx57Le1Xx4Le2Xx67Le2Xx3Extend32Xx16Le16Xx86Le2Xx6Le3Xx620Le2Xx17Le1Wsegspace26Le5Xx75Le",
   "3Xx11Le7Xx18Le4Extend9Xx19Le3Extend11Xx18Le2Extend12Xx13Le1Xx3Le1Xx2Extend64Xx32Extend9Xx",
   "1Extend2Xx10Nu33Xx3Extend1Fo1Extend10Nu6Xx89Le7Xx5Le2Extend34Le1Extend1Le5Xx70Le10Xx31Le1Xx",
   "12Extend4Xx12Extend10Xx10Nu128Xx11Nu37Xx23Le5Extend57Xx10Extend1Xx29Extend2Xx1Extend10Nu6Xx",
   "10Nu22Xx31Extend49Xx5Extend47Le17Extend8Le3Xx10Nu17Xx9Extend12Xx3Extend30Le13Extend2Le10Nu",
   "44Le14Extend12Xx36Le20Extend8Xx10Nu3Xx3Le10Nu36Le2Xx11Le5Xx43Le2Xx3Le16Xx3Extend1Xx21Extend",
   "4Le1Extend6Le1Extend2Le3Extend1Le5Xx192Le64Extend278Le2Xx6Le2Xx38Le2Xx6Le2Xx8Le1Xx1Le1Xx1Le",
   "1Xx1Le1Xx31Le2Xx53Le1Xx7Le1Xx1Le3Xx3Le1Xx7Le3Xx4Le2Xx6Le4Xx13Le5Xx3Le1Xx7Le3Xx7Wsegspace1Xx",
   "3Wsegspace1Xx1Extend1Zwj2Fo8Xx2Mb10Xx1Mb2Xx1Ml2Nl5Fo1Ex15Xx2Ex3Xx1Mn15Xx1Ex10Xx1Wsegspace5Fo",
   "1Xx10Fo1Xx1Le13Xx1Le16Xx13Le51Xx33Extend17Xx1Le4Xx1Le2Xx10Le1Xx1Le3Xx5Le6Xx1Le1Xx1Le1Xx1Le1Xx",
   "4Le1Xx11Le2Xx4Le5Xx5Le4Xx1Le17Xx41Le813Xx52Le1814Xx229Le6Xx4Le3Extend2Le12Xx38Le1Xx1Le5Xx1Le",
   "2Xx56Le7Xx1Le15Xx1Extend23Le9Xx7Le1Xx7Le1Xx7Le1Xx7Le1Xx7Le1Xx7Le1Xx7Le1Xx7Le1Xx32Extend47Xx",
   "1Le464Xx1Wsegspace4Xx1Le36Xx6Extend1Xx5Ka5Xx2Le92Xx2Extend2Ka3Xx91Ka1Xx4Ka5Xx43Le1Xx94Le17Xx",
   "32Le48Xx16Ka208Xx47Ka1Xx88Ka27816Xx1165Le67Xx46Le2Xx269Le3Xx16Le10Nu2Le20Xx47Le4Extend1Xx",
   "10Extend1Xx31Le2Extend80Le2Extend22Xx198Le2Xx2Le1Xx1Le1Xx8Le21Xx16Le1Extend3Le1Extend4Le",
   "1Extend23Le5Extend4Xx1Extend19Xx52Le12Xx2Extend50Le18Extend10Xx10Nu6Xx18Extend6Le3Xx1Le1Xx2Le",
   "1Extend10Nu28Le8Extend2Xx23Le13Extend12Xx29Le3Xx4Extend47Le14Extend14Xx1Le10Nu11Xx1Extend10Xx",
   "10Nu6Xx41Le14Extend9Xx3Le1Extend8Le2Extend2Xx10Nu33Xx3Extend50Xx1Extend1Xx3Extend2Xx2Extend",
   "5Xx2Extend1Xx1Extend30Xx11Le5Extend2Xx3Le2Extend10Xx6Le2Xx6Le2Xx6Le9Xx7Le1Xx7Le1Xx58Le6Xx",
   "115Le8Extend1Xx2Extend2Xx10Nu6Xx11172Le12Xx23Le4Xx49Le8964Xx7Le12Xx5Le5Xx1Hl1Extend10Hl1Xx",
   "13Hl1Xx5Hl1Xx1Hl1Xx2Hl1Xx2Hl1Xx10Hl98Le33Xx363Le18Xx64Le2Xx54Le40Xx12Le4Xx16Extend3Xx1Ml12Xx",
   "16Extend3Xx2Ex24Xx3Ex1Mn1Xx1Mb1Xx1Mn1Ml26Xx5Le1Xx135Le2Xx1Fo7Xx1Mb4Xx1Mn1Xx1Mb1Xx10Nu1Ml1Mn",
   "5Xx26Le4Xx1Ex1Xx26Le11Xx56Ka2Extend31Le3Xx6Le2Xx6Le2Xx6Le2Xx3Le28Xx3Fo4Xx12Le1Xx26Le1Xx19Le",
   "1Xx2Le1Xx15Le2Xx14Le34Xx123Le69Xx53Le136Xx1Extend130Xx29Le3Xx49Le15Xx1Extend31Xx32Le13Xx30Le",
   "5Xx38Le5Extend5Xx30Le2Xx36Le4Xx8Le1Xx5Le42Xx158Le2Xx10Nu6Xx36Le4Xx36Le4Xx40Le8Xx52Le12Xx11Le",
   "1Xx15Le1Xx7Le1Xx2Le1Xx11Le1Xx15Le1Xx7Le1Xx2Le3Xx52Le12Xx311Le9Xx22Le10Xx8Le24Xx6Le1Xx42Le1Xx",
   "9Le69Xx6Le2Xx1Le1Xx44Le1Xx2Le3Xx1Le2Xx23Le10Xx23Le9Xx31Le65Xx19Le1Xx2Le10Xx22Le10Xx26Le70Xx",
   "56Le6Xx2Le64Xx1Le3Extend1Xx2Extend5Xx4Extend4Le1Xx3Le1Xx29Le2Xx3Extend4Xx1Extend32Xx29Le3Xx",
   "29Le35Xx8Le1Xx28Le2Extend25Xx54Le10Xx22Le10Xx19Le13Xx18Le110Xx73Le55Xx51Le13Xx51Le13Xx36Le",
   "4Extend8Xx10Nu6Xx10Nu28Le3Xx5Extend1Xx23Le250Xx42Le1Xx2Extend3Xx2Le16Xx3Le55Xx4Extend29Le10Xx",
   "1Le8Xx22Le11Extend31Xx18Le4Extend42Xx21Le27Xx23Le9Xx3Extend53Le15Extend31Xx10Nu1Extend2Le",
   "2Extend1Le9Xx4Extend45Le11Extend2Xx1Nu4Xx1Extend10Xx1Nu2Xx25Le7Xx10Nu6Xx3Extend36Le14Extend",
   "1Xx10Nu4Xx1Le2Extend1Le8Xx35Le1Extend2Xx1Le9Xx3Extend48Le14Extend4Le4Xx4Extend1Xx2Extend10Nu",
   "1Le1Xx1Le35Xx18Le1Xx25Le12Extend6Xx1Extend2Le1Extend62Xx7Le1Xx1Le1Xx4Le1Xx15Le1Xx10Le7Xx47Le",
   "12Extend5Xx10Nu6Xx4Extend1Xx8Le2Xx2Le2Xx22Le1Xx7Le1Xx2Le1Xx5Le1Xx2Extend1Le7Extend2Xx2Extend",
   "2Xx3Extend2Xx1Le6Xx1Extend5Xx5Le2Extend2Xx7Extend3Xx5Extend11Xx10Le1Xx1Le2Xx1Le1Xx38Le1Xx1Le",
   "9Extend1Xx1Extend2Xx1Extend1Xx4Extend1Xx5Extend1Le1Extend1Le13Xx2Extend29Xx53Le18Extend4Le5Xx",
   "10Nu4Xx1Extend3Le30Xx48Le20Extend2Le1Xx1Le8Xx10Nu166Xx47Le7Extend2Xx9Extend23Xx4Le2Extend34Xx",
   "48Le17Extend3Xx1Le11Xx10Nu38Xx43Le13Extend1Le7Xx10Nu6Xx20Nu57Xx15Extend4Xx10Nu198Xx44Le",
   "15Extend101Xx64Le10Nu21Xx8Le2Xx1Le2Xx8Le1Xx2Le1Xx24Le6Extend1Xx2Extend2Xx4Extend1Le1Extend1Le",
   "2Extend12Xx10Nu70Xx8Le2Xx39Le7Extend2Xx7Extend1Le1Xx1Le1Extend27Xx1Le10Extend40Le7Extend1Le",
   "4Extend8Xx1Extend8Xx1Le11Extend46Le16Extend3Xx1Le18Xx73Le199Xx33Le15Xx10Nu6Xx9Le1Xx37Le",
   "8Extend1Xx8Extend1Le15Xx10Nu24Xx30Le2Xx22Extend1Xx14Extend73Xx7Le1Xx2Le1Xx38Le6Extend3Xx",
   "1Extend1Xx2Extend1Xx7Extend1Le1Extend8Xx10Nu6Xx6Le1Xx2Le1Xx32Le5Extend1Xx2Extend1Xx5Extend1Le",
   "7Xx10Nu310Xx19Le4Extend9Xx2Extend1Le1Extend13Le1Xx34Le7Extend3Xx5Extend13Xx10Nu1Extend85Xx1Le",
   "79Xx922Le102Xx111Le17Xx196Le2636Xx97Le15Xx1072Le16Fo1Extend6Le15Extend10Xx3995Le5Xx583Le",
   "6841Xx30Le18Extend10Nu1734Xx569Le7Xx31Le1Xx10Nu6Xx79Le1Xx10Nu6Xx30Le2Xx5Extend11Xx48Le7Extend",
   "9Xx4Le12Xx10Nu9Xx21Le5Xx19Le432Xx45Le3Xx10Nu198Xx64Le128Xx75Le4Xx1Extend1Le55Extend7Xx4Extend",
   "13Le64Xx2Le1Xx1Le1Extend11Xx2Extend16382Xx4Ka1Xx7Ka1Xx2Ka1Xx1Ka287Xx3Ka50Xx1Ka14Xx4Ka2712Xx",
   "107Le5Xx13Le3Xx9Le7Xx10Le3Xx2Extend1Xx4Fo4172Xx10Nu518Xx46Extend2Xx23Extend542Xx5Extend3Xx",
   "6Extend8Fo8Extend2Xx7Extend30Xx4Extend148Xx3Extend443Xx85Le1Xx71Le1Xx2Le2Xx1Le2Xx2Le2Xx4Le1Xx",
   "12Le1Xx1Le1Xx7Le1Xx65Le1Xx4Le2Xx8Le1Xx7Le1Xx28Le1Xx4Le1Xx5Le1Xx1Le3Xx7Le1Xx340Le2Xx25Le1Xx",
   "25Le1Xx31Le1Xx25Le1Xx31Le1Xx25Le1Xx31Le1Xx25Le1Xx31Le1Xx25Le1Xx8Le2Xx50Nu512Xx55Extend4Xx",
   "50Extend8Xx1Extend14Xx1Extend22Xx5Extend1Xx15Extend1104Xx31Le6Xx6Le213Xx7Extend1Xx17Extend2Xx",
   "7Extend1Xx2Extend1Xx5Extend5Xx62Le33Xx1Extend112Xx45Le3Xx7Extend7Le2Xx10Nu4Xx1Le321Xx30Le",
   "1Extend17Xx44Le4Extend10Nu470Xx28Le4Extend10Nu214Xx30Le2Extend1Le10Nu485Xx7Le1Xx4Le1Xx2Le1Xx",
   "15Le1Xx197Le11Xx7Extend41Xx68Le7Extend1Le4Xx10Nu1190Xx4Le1Xx27Le1Xx2Le1Xx1Le2Xx1Le1Xx10Le1Xx",
   "4Le1Xx1Le1Xx1Le6Xx1Le4Xx1Le1Xx1Le1Xx1Le1Xx3Le1Xx2Le1Xx1Le2Xx1Le1Xx1Le1Xx1Le1Xx1Le1Xx1Le1Xx2Le",
   "1Xx1Le2Xx4Le1Xx7Le1Xx4Le1Xx4Le1Xx1Le1Xx10Le1Xx17Le5Xx3Le1Xx5Le1Xx17Le628Xx26Le6Xx26Le6Xx26Le",
   "92Xx26Ri507Xx5Extend2032Xx10Nu787463Xx1Fo30Xx96Extend128Xx240Extend196112Xx"]

/-- The cut into words. -/
def wordBreak : BreakTable where
  runs := readRuns 0 [] (wordText.flatMap String.toList)
  names :=
    [(["cr"], "Cr"), (["doublequote", "dq"], "Dq"), (["ex", "extendnumlet"], "Ex"),
     (["extend"], "Extend"), (["fo", "format"], "Fo"), (["hebrewletter", "hl"], "Hl"),
     (["ka", "katakana"], "Ka"), (["aletter", "le"], "Le"), (["lf"], "Lf"),
     (["mb", "midnumlet"], "Mb"), (["midletter", "ml"], "Ml"), (["midnum", "mn"], "Mn"),
     (["newline", "nl"], "Nl"), (["nu", "numeric"], "Nu"), (["regionalindicator", "ri"], "Ri"),
     (["singlequote", "sq"], "Sq"), (["wsegspace"], "Wsegspace"), (["zwj"], "Zwj")]

/-- The parts of characters in sentences, from code point 0 on. -/
def sentenceText : List String :=
  ["9Xx1Sp1Lf2Sp1Cr18Xx1Sp1St1Cl4Xx3Cl2Xx2Sc1At1Xx10Nu2Sc3Xx1St1Xx26Up1Cl1Xx1Cl3Xx26Lo1Cl1Xx1Cl",
   "7Xx1Se26Xx1Sp9Xx1Lo1Cl1Xx1Fo7Xx1Lo4Xx1Lo1Cl4Xx23Up1Xx7Up24Lo1Xx8Lo1Up1Lo1Up1Lo1Up1Lo1Up1Lo1Up",
   "1Lo1Up1Lo1Up1Lo1Up1Lo1Up1Lo1Up1Lo1Up1Lo1Up1Lo1Up1Lo1Up1Lo1Up1Lo1Up1Lo1Up1Lo1Up1Lo1Up1Lo1Up1Lo",
   "1Up1Lo1Up1Lo1Up1Lo1Up1Lo1Up1Lo1Up1Lo1Up1Lo1Up2Lo1Up1Lo1Up1Lo1Up1Lo1Up1Lo1Up1Lo1Up1Lo1Up1Lo1Up",
   "2Lo1Up1Lo1Up1Lo1Up1Lo1Up1Lo1Up1Lo1Up1Lo1Up1Lo1Up1Lo1Up1Lo1Up1Lo1Up1Lo1Up1Lo1Up1Lo1Up1Lo1Up1Lo",
   "1Up1Lo1Up1Lo1Up1Lo1Up1Lo1Up1Lo1Up1Lo1Up1Lo1Up1Lo2Up1Lo1Up1Lo1Up3Lo2Up1Lo1Up1Lo2Up1Lo3Up2Lo4Up",
   "1Lo2Up1Lo3Up3Lo2Up1Lo2Up1Lo1Up1Lo1Up1Lo2Up1Lo1Up2Lo1Up1Lo2Up1Lo3Up1Lo1Up1Lo2Up2Lo1Le1Up3Lo4Le",
   "2Up1Lo2Up1Lo2Up1Lo1Up1Lo1Up1Lo1Up1Lo1Up1Lo1Up1Lo1Up1Lo1Up1Lo1Up2Lo1Up1Lo1Up1Lo1Up1Lo1Up1Lo1Up",
   "1Lo1Up1Lo1Up1Lo1Up1Lo1Up2Lo2Up1Lo1Up1Lo3Up1Lo1Up1Lo1Up1Lo1Up1Lo1Up1Lo1Up1Lo1Up1Lo1Up1Lo1Up1Lo",
   "1Up1Lo1Up1Lo1Up1Lo1Up1Lo1Up1Lo1Up1Lo1Up1Lo1Up1Lo1Up1Lo1Up1Lo1Up1Lo1Up1Lo1Up1Lo1Up1Lo1Up1Lo1Up",
   "1Lo1Up1Lo1Up1Lo1Up1Lo1Up1Lo1Up7Lo2Up1Lo2Up2Lo1Up1Lo4Up1Lo1Up1Lo1Up1Lo1Up1Lo1Up69Lo1Le36Lo7Le",
   "2Lo4Xx12Le14Xx5Lo7Xx1Le1Xx1Le17Xx112Ex1Up1Lo1Up1Lo1Le1Xx1Up1Lo2Xx4Lo1Sc1Up6Xx1Up1Xx3Up1Xx1Up",
   "1Xx2Up1Lo17Up1Xx9Up35Lo1Up2Lo3Up3Lo1Up1Lo1Up1Lo1Up1Lo1Up1Lo1Up1Lo1Up1Lo1Up1Lo1Up1Lo1Up1Lo1Up",
   "1Lo1Up1Lo1Up5Lo1Up1Lo1Xx1Up1Lo2Up2Lo51Up48Lo1Up1Lo1Up1Lo1Up1Lo1Up1Lo1Up1Lo1Up1Lo1Up1Lo1Up1Lo",
   "1Up1Lo1Up1Lo1Up1Lo1Up1Lo1Up1Lo1Up1Lo1Up1Lo1Up1Lo1Up1Lo1Xx7Ex1Up1Lo1Up1Lo1Up1Lo1Up1Lo1Up1Lo1Up",
   "1Lo1Up1Lo1Up1Lo1Up1Lo1Up1Lo1Up1Lo1Up1Lo1Up1Lo1Up1Lo1Up1Lo1Up1Lo1Up1Lo1Up1Lo1Up1Lo1Up1Lo1Up1Lo",
   "1Up1Lo1Up1Lo1Up1Lo1Up1Lo1Up1Lo1Up1Lo2Up1Lo1Up1Lo1Up1Lo1Up1Lo1Up1Lo1Up1Lo1Up2Lo1Up1Lo1Up1Lo1Up",
   "1Lo1Up1Lo1Up1Lo1Up1Lo1Up1Lo1Up1Lo1Up1Lo1Up1Lo1Up1Lo1Up1Lo1Up1Lo1Up1Lo1Up1Lo1Up1Lo1Up1Lo1Up1Lo",
   "1Up1Lo1Up1Lo1Up1Lo1Up1Lo1Up1Lo1Up1Lo1Up1Lo1Up1Lo1Up1Lo1Up1Lo1Up1Lo1Up1Lo1Up1Lo1Up1Lo1Up1Lo1Up",
   "1Lo1Up1Lo1Up1Lo1Up1Lo1Up1Lo1Up1Lo1Up1Lo1Up1Lo1Up1Lo1Up1Lo1Up1Lo1Up1Lo1Up1Lo1Up1Lo1Up1Lo1Xx",
   "38Up2Xx1Le3Xx1Sc2Xx41Lo1St7Xx45Ex1Xx1Ex1Xx2Ex1Xx2Ex1Xx1Ex8Xx27Le4Xx5Le12Xx6Nu6Xx2Sc2Xx11Ex1Xx",
   "1Fo3St43Le21Ex10Nu1Xx2Nu1Xx2Le1Ex99Le1St1Le7Ex1Nu1Xx6Ex2Le2Ex1Xx4Ex2Le10Nu3Le2Xx1Le3St12Xx1Fo",
   "1Le1Ex30Le27Ex2Xx89Le11Ex1Le14Xx10Nu33Le9Ex2Le2Xx1Sc1St1Le2Xx1Ex2Xx22Le4Ex1Le9Ex1Le3Ex1Le5Ex",
   "9Xx1St1Xx1St3Xx2St1Xx25Le3Ex4Xx11Le5Xx24Le1Xx6Le1Xx2Nu5Xx9Ex42Le24Ex1Nu33Ex54Le3Ex1Le18Ex1Le",
   "7Ex10Le2Ex2St10Nu1Xx16Le3Ex1Xx8Le2Xx2Le2Xx22Le1Xx7Le1Xx1Le3Xx4Le2Xx1Ex1Le7Ex2Xx2Ex2Xx3Ex1Le",
   "8Xx1Ex4Xx2Le1Xx3Le2Ex2Xx10Nu2Le10Xx1Le1Xx1Ex2Xx3Ex1Xx6Le4Xx2Le2Xx22Le1Xx7Le1Xx2Le1Xx2Le1Xx2Le",
   "2Xx1Ex1Xx5Ex4Xx2Ex2Xx3Ex3Xx1Ex7Xx4Le1Xx1Le7Xx10Nu2Ex3Le1Ex11Xx3Ex1Xx9Le1Xx3Le1Xx22Le1Xx7Le1Xx",
   "2Le1Xx5Le2Xx1Ex1Le8Ex1Xx3Ex1Xx3Ex2Xx1Le15Xx2Le2Ex2Xx10Nu9Xx1Le6Ex1Xx3Ex1Xx8Le2Xx2Le2Xx22Le1Xx",
   "7Le1Xx2Le1Xx5Le2Xx1Ex1Le7Ex2Xx2Ex2Xx3Ex7Xx3Ex4Xx2Le1Xx3Le2Ex2Xx10Nu1Xx1Le16Xx1Ex1Le1Xx6Le3Xx",
   "3Le1Xx4Le3Xx2Le1Xx1Le1Xx2Le3Xx2Le3Xx3Le3Xx12Le4Xx5Ex3Xx3Ex1Xx4Ex2Xx1Le6Xx1Ex14Xx10Nu16Xx5Ex",
   "8Le1Xx3Le1Xx23Le1Xx16Le2Xx1Ex1Le7Ex1Xx3Ex1Xx4Ex7Xx2Ex1Xx3Le2Xx1Le2Xx2Le2Ex2Xx10Nu16Xx1Le3Ex",
   "1Xx8Le1Xx3Le1Xx23Le1Xx10Le1Xx5Le2Xx1Ex1Le7Ex1Xx3Ex1Xx4Ex7Xx2Ex6Xx2Le1Xx2Le2Ex2Xx10Nu1Xx2Le1Ex",
   "12Xx4Ex9Le1Xx3Le1Xx41Le2Ex1Le7Ex1Xx3Ex1Xx4Ex1Le5Xx3Le1Ex7Xx3Le2Ex2Xx10Nu10Xx6Le1Xx3Ex1Xx18Le",
   "3Xx24Le1Xx9Le1Xx1Le2Xx7Le3Xx1Ex4Xx6Ex1Xx1Ex1Xx8Ex6Xx10Nu2Xx2Ex13Xx48Le1Ex2Le7Ex5Xx7Le8Ex1Xx",
   "10Nu39Xx2Le1Xx1Le1Xx5Le1Xx24Le1Xx1Le1Xx10Le1Ex2Le9Ex1Le2Xx5Le1Xx1Le1Xx7Ex1Xx10Nu2Xx4Le32Xx1Le",
   "23Xx2Ex6Xx10Nu11Xx1Ex1Xx1Ex1Xx1Ex4Cl2Ex8Le1Xx36Le4Xx20Ex1Xx2Ex5Le11Ex1Xx36Ex9Xx1Ex57Xx43Le",
   "20Ex1Le10Nu2St4Xx6Le4Ex4Le3Ex1Le3Ex2Le7Ex3Le4Ex13Le12Ex1Le1Ex10Nu4Ex2Xx38Up1Xx1Up5Xx1Up2Xx",
   "43Le1Xx1Lo332Le1Xx4Le2Xx7Le1Xx1Le1Xx4Le2Xx41Le1Xx4Le2Xx33Le1Xx4Le2Xx7Le1Xx1Le1Xx4Le2Xx15Le1Xx",
   "57Le1Xx4Le2Xx67Le2Xx3Ex2Xx1St4Xx2St23Xx16Le16Xx86Up2Xx6Lo3Xx620Le1Xx1St17Le1Sp26Le2Cl3Xx75Le",
   "3Xx11Le7Xx18Le4Ex9Xx19Le3Ex2St9Xx18Le2Ex12Xx13Le1Xx3Le1Xx2Ex12Xx52Le32Ex2St1Xx1Le4Xx1Le1Ex2Xx",
   "10Nu24Xx1Sc1St4Xx1Sc1St1Xx3Ex1Fo1Ex10Nu6Xx89Le7Xx5Le2Ex34Le1Ex1Le5Xx70Le10Xx31Le1Xx12Ex4Xx",
   "12Ex8Xx2St10Nu30Le2Xx5Le11Xx44Le4Xx26Le6Xx11Nu37Xx23Le5Ex4Xx53Le10Ex1Xx29Ex2Xx1Ex10Nu6Xx10Nu",
   "13Xx1Le4St4Xx31Ex49Xx5Ex47Le17Ex8Le1Xx2St10Nu2St2Xx2St11Xx9Ex9Xx3St3Ex30Le13Ex2Le10Nu44Le14Ex",
   "12Xx36Le20Ex3Xx2St3Xx10Nu3Xx3Le10Nu36Le2St9Lo1Up1Lo5Xx43Le2Xx3Le16Xx3Ex1Xx21Ex4Le1Ex6Le1Ex2Le",
   "3Ex1Le5Xx192Lo64Ex1Up1Lo1Up1Lo1Up1Lo1Up1Lo1Up1Lo1Up1Lo1Up1Lo1Up1Lo1Up1Lo1Up1Lo1Up1Lo1Up1Lo1Up",
   "1Lo1Up1Lo1Up1Lo1Up1Lo1Up1Lo1Up1Lo1Up1Lo1Up1Lo1Up1Lo1Up1Lo1Up1Lo1Up1Lo1Up1Lo1Up1Lo1Up1Lo1Up1Lo",
   "1Up1Lo1Up1Lo1Up1Lo1Up1Lo1Up1Lo1Up1Lo1Up1Lo1Up1Lo1Up1Lo1Up1Lo1Up1Lo1Up1Lo1Up1Lo1Up1Lo1Up1Lo1Up",
   "1Lo1Up1Lo1Up1Lo1Up1Lo1Up1Lo1Up1Lo1Up1Lo1Up1Lo1Up1Lo1Up1Lo1Up1Lo1Up1Lo1Up1Lo1Up1Lo1Up1Lo1Up1Lo",
   "1Up1Lo1Up1Lo1Up1Lo1Up1Lo1Up1Lo1Up1Lo1Up1Lo1Up1Lo1Up1Lo1Up1Lo1Up1Lo1Up1Lo1Up1Lo1Up1Lo1Up1Lo1Up",
   "9Lo1Up1Lo1Up1Lo1Up1Lo1Up1Lo1Up1Lo1Up1Lo1Up1Lo1Up1Lo1Up1Lo1Up1Lo1Up1Lo1Up1Lo1Up1Lo1Up1Lo1Up1Lo",
   "1Up1Lo1Up1Lo1Up1Lo1Up1Lo1Up1Lo1Up1Lo1Up1Lo1Up1Lo1Up1Lo1Up1Lo1Up1Lo1Up1Lo1Up1Lo1Up1Lo1Up1Lo1Up",
   "1Lo1Up1Lo1Up1Lo1Up1Lo1Up1Lo1Up1Lo1Up1Lo1Up1Lo1Up1Lo1Up1Lo1Up1Lo1Up1Lo1Up1Lo1Up1Lo1Up1Lo1Up1Lo",
   "1Up1Lo1Up1Lo1Up9Lo8Up6Lo2Xx6Up2Xx8Lo8Up8Lo8Up6Lo2Xx6Up2Xx8Lo1Xx1Up1Xx1Up1Xx1Up1Xx1Up8Lo8Up",
   "14Lo2Xx8Lo8Up8Lo8Up8Lo8Up5Lo1Xx2Lo5Up1Xx1Lo3Xx3Lo1Xx2Lo5Up3Xx4Lo2Xx2Lo4Up4Xx8Lo5Up5Xx3Lo1Xx",
   "2Lo5Up3Xx11Sp1Fo2Ex2Fo3Xx2Sc3Xx8Cl4Xx1At3Xx2Se5Fo1Sp9Xx2Cl1Xx2St7Xx2Cl3St21Xx1Sp5Fo1Xx10Fo1Xx",
   "1Lo11Xx2Cl1Lo13Xx2Cl1Xx13Lo51Xx33Ex17Xx1Up4Xx1Up2Xx1Lo3Up2Lo3Up1Lo1Xx1Up3Xx5Up6Xx1Up1Xx1Up1Xx",
   "1Up1Xx4Up1Xx1Lo4Up1Lo4Le1Lo2Xx2Lo2Up5Xx1Up4Lo4Xx1Lo17Xx16Up16Lo3Le1Up1Lo4Le383Xx4Cl29Xx2Cl",
   "395Xx26Up26Lo625Xx6Cl7Xx14Cl79Xx2Cl31Xx10Cl403Xx22Cl63Xx4Cl32Xx2Cl514Xx48Up48Lo1Up1Lo3Up2Lo",
   "1Up1Lo1Up1Lo1Up1Lo4Up1Lo1Up2Lo1Up8Lo3Up1Lo1Up1Lo1Up1Lo1Up1Lo1Up1Lo1Up1Lo1Up1Lo1Up1Lo1Up1Lo1Up",
   "1Lo1Up1Lo1Up1Lo1Up1Lo1Up1Lo1Up1Lo1Up1Lo1Up1Lo1Up1Lo1Up1Lo1Up1Lo1Up1Lo1Up1Lo1Up1Lo1Up1Lo1Up1Lo",
   "1Up1Lo1Up1Lo1Up1Lo1Up1Lo1Up1Lo1Up1Lo1Up1Lo1Up1Lo1Up1Lo1Up1Lo1Up1Lo1Up1Lo1Up1Lo1Up1Lo1Up1Lo1Up",
   "1Lo1Up1Lo1Up1Lo1Up1Lo1Up1Lo1Up1Lo1Up1Lo1Up1Lo1Up1Lo1Up2Lo6Xx1Up1Lo1Up1Lo3Ex1Up1Lo5Xx3St4Xx",
   "38Lo1Xx1Lo5Xx1Lo2Xx56Le7Xx1Le15Xx1Ex23Le9Xx7Le1Xx7Le1Xx7Le1Xx7Le1Xx7Le1Xx7Le1Xx7Le1Xx7Le1Xx",
   "32Ex14Cl14Xx2Cl2Xx10Cl4Xx1St1Le12Xx1St5Xx1Cl16Xx2St8Cl419Xx1Sp1Sc1St2Xx3Le10Cl2Xx8Cl1Xx3Cl1Xx",
   "9Le6Ex1Xx5Le2Xx5Le4Xx86Le2Xx2Ex2Xx3Le1Xx90Le1Xx4Le5Xx43Le1Xx94Le17Xx32Le48Xx16Le512Xx6592Le",
   "64Xx22157Le67Xx46Le1Xx1St269Le1Xx2St16Le10Nu2Le20Xx1Up1Lo1Up1Lo1Up1Lo1Up1Lo1Up1Lo1Up1Lo1Up1Lo",
   "1Up1Lo1Up1Lo1Up1Lo1Up1Lo1Up1Lo1Up1Lo1Up1Lo1Up1Lo1Up1Lo1Up1Lo1Up1Lo1Up1Lo1Up1Lo1Up1Lo1Up1Lo1Up",
   "1Lo1Le4Ex1Xx10Ex1Xx1Le1Up1Lo1Up1Lo1Up1Lo1Up1Lo1Up1Lo1Up1Lo1Up1Lo1Up1Lo1Up1Lo1Up1Lo1Up1Lo1Up",
   "1Lo1Up1Lo1Up3Lo2Ex80Le2Ex1Xx1St3Xx1St31Xx9Le2Xx1Up1Lo1Up1Lo1Up1Lo1Up1Lo1Up1Lo1Up1Lo1Up3Lo1Up",
   "1Lo1Up1Lo1Up1Lo1Up1Lo1Up1Lo1Up1Lo1Up1Lo1Up1Lo1Up1Lo1Up1Lo1Up1Lo1Up1Lo1Up1Lo1Up1Lo1Up1Lo1Up1Lo",
   "1Up1Lo1Up1Lo1Up1Lo1Up1Lo1Up1Lo1Up1Lo1Up1Lo1Up1Lo1Up1Lo1Up1Lo1Up1Lo1Up1Lo1Up1Lo1Up1Lo1Up10Lo",
   "1Up1Lo1Up1Lo2Up1Lo1Up1Lo1Up1Lo1Up1Lo1Up1Lo1Le2Xx1Up1Lo1Up1Lo1Le1Up1Lo1Up3Lo1Up1Lo1Up1Lo1Up1Lo",
   "1Up1Lo1Up1Lo1Up1Lo1Up1Lo1Up1Lo1Up1Lo1Up1Lo5Up1Lo5Up1Lo1Up1Lo1Up1Lo1Up1Lo1Up1Lo1Up1Lo1Up1Lo1Up",
   "1Lo4Up1Lo1Up1Lo2Up1Lo2Xx1Up1Lo1Xx1Lo1Xx1Lo1Up1Lo1Up1Lo1Up1Lo1Up21Xx3Lo1Up1Lo1Le3Lo7Le1Ex3Le",
   "1Ex4Le1Ex23Le5Ex4Xx1Ex19Xx52Le2Xx2St8Xx2Ex50Le18Ex8Xx2St10Nu6Xx18Ex6Le3Xx1Le1Xx2Le1Ex10Nu28Le",
   "8Ex1Xx1St23Le13Ex12Xx29Le3Xx4Ex47Le14Ex7Xx2St5Xx1Le10Nu6Xx5Le1Ex10Le10Nu5Le1Xx41Le14Ex9Xx3Le",
   "1Ex8Le2Ex2Xx10Nu3Xx3St23Le3Xx1Le3Ex50Le1Ex1Le3Ex2Le2Ex5Le2Ex1Le1Ex1Le24Xx3Le2Xx11Le5Ex2St3Le",
   "2Ex10Xx6Le2Xx6Le2Xx6Le9Xx7Le1Xx7Le1Xx43Lo1Xx14Lo6Xx80Lo35Le8Ex1St2Ex2Xx10Nu6Xx11172Le12Xx23Le",
   "4Xx49Le8452Xx366Le2Xx106Le38Xx7Lo12Xx5Lo5Xx1Le1Ex10Le1Xx13Le1Xx5Le1Xx1Le1Xx2Le1Xx2Le1Xx108Le",
   "33Xx363Le2Cl16Xx64Le2Xx54Le40Xx12Le4Xx16Ex2Sc1St2Sc2St2Cl7Xx16Ex1Xx2Sc2Xx16Cl2Xx2Cl7Xx2Sc1At",
   "1Xx2Sc2St1Sc6Cl4Xx1Sc12Xx5Le1Xx135Le2Xx1Fo1Xx1St6Xx2Cl2Xx2Sc1At1Xx10Nu2Sc3Xx1St1Xx26Up1Cl1Xx",
   "1Cl3Xx26Lo1Cl1Xx1Cl1Xx2Cl1St2Cl1Sc1Xx56Le2Ex31Le3Xx6Le2Xx6Le2Xx6Le2Xx3Le28Xx3Fo4Xx12Le1Xx26Le",
   "1Xx19Le1Xx2Le1Xx15Le2Xx14Le34Xx123Le69Xx53Le136Xx1Ex130Xx29Le3Xx49Le15Xx1Ex31Xx32Le13Xx30Le",
   "5Xx38Le5Ex5Xx30Le2Xx36Le4Xx8Le1Xx5Le42Xx40Up40Lo78Le2Xx10Nu6Xx36Up4Xx36Lo4Xx40Le8Xx52Le12Xx",
   "11Up1Xx15Up1Xx7Up1Xx2Up1Xx11Lo1Xx15Lo1Xx7Lo1Xx2Lo3Xx52Le12Xx311Le9Xx22Le10Xx8Le24Xx1Lo2Le3Lo",
   "1Xx42Lo1Xx9Lo69Xx6Le2Xx1Le1Xx44Le1Xx2Le3Xx1Le2Xx23Le10Xx23Le9Xx31Le65Xx19Le1Xx2Le10Xx22Le10Xx",
   "26Le70Xx56Le6Xx2Le64Xx1Le3Ex1Xx2Ex5Xx4Ex4Le1Xx3Le1Xx29Le2Xx3Ex4Xx1Ex22Xx2St8Xx29Le3Xx29Le35Xx",
   "8Le1Xx28Le2Ex25Xx54Le10Xx22Le10Xx19Le13Xx18Le110Xx73Le55Xx51Up13Xx51Lo13Xx36Le4Ex8Xx10Nu6Xx",
   "10Nu6Le22Up3Xx5Ex1Xx1Le22Lo250Xx42Le1Xx2Ex3Xx2Le16Xx3Le55Xx4Ex29Le10Xx1Le8Xx22Le11Ex4Xx5St",
   "22Xx18Le4Ex4St38Xx21Le27Xx23Le9Xx3Ex53Le15Ex2St29Xx10Nu1Ex2Le2Ex1Le9Xx4Ex45Le11Ex2Xx1Nu4St1Ex",
   "10Xx1Nu2Xx25Le7Xx10Nu6Xx3Ex36Le14Ex1Xx10Nu1Xx3St1Le2Ex1Le8Xx35Le1Ex2Xx1Le9Xx3Ex48Le14Ex4Le2St",
   "2Xx4Ex1St2Ex10Nu1Le1Xx1Le1Xx2St32Xx18Le1Xx25Le12Ex2St1Xx2St1Xx1Ex2Le1Ex62Xx7Le1Xx1Le1Xx4Le1Xx",
   "15Le1Xx10Le1St6Xx47Le12Ex5Xx10Nu6Xx4Ex1Xx8Le2Xx2Le2Xx22Le1Xx7Le1Xx2Le1Xx5Le1Xx2Ex1Le7Ex2Xx2Ex",
   "2Xx3Ex2Xx1Le6Xx1Ex5Xx5Le2Ex2Xx7Ex3Xx5Ex11Xx10Le1Xx1Le2Xx1Le1Xx38Le1Xx1Le9Ex1Xx1Ex2Xx1Ex1Xx4Ex",
   "1Xx5Ex1Le1Ex1Le2St11Xx2Ex29Xx53Le18Ex4Le2St3Xx10Nu4Xx1Ex3Le30Xx48Le20Ex2Le1Xx1Le8Xx10Nu166Xx",
   "47Le7Ex2Xx9Ex1Xx2St5Xx15St4Le2Ex34Xx48Le17Ex2St1Xx1Le11Xx10Nu38Xx43Le13Ex1Le7Xx10Nu6Xx20Nu",
   "28Xx27Le2Xx15Ex4Xx10Nu2Xx3St1Xx7Le185Xx44Le15Ex101Xx32Up32Lo10Nu21Xx8Le2Xx1Le2Xx8Le1Xx2Le1Xx",
   "24Le6Ex1Xx2Ex2Xx4Ex1Le1Ex1Le2Ex1St1Xx1St9Xx10Nu70Xx8Le2Xx39Le7Ex2Xx7Ex1Le1Xx1Le1Ex27Xx1Le10Ex",
   "40Le7Ex1Le4Ex3Xx2St3Xx1Ex8Xx1Le11Ex46Le16Ex1Xx2St1Le18Xx73Le199Xx33Le15Xx10Nu6Xx9Le1Xx37Le8Ex",
   "1Xx8Ex1Le2St13Xx10Nu24Xx30Le2Xx22Ex1Xx14Ex73Xx7Le1Xx2Le1Xx38Le6Ex3Xx1Ex1Xx2Ex1Xx7Ex1Le1Ex8Xx",
   "10Nu6Xx6Le1Xx2Le1Xx32Le5Ex1Xx2Ex1Xx5Ex1Le7Xx10Nu310Xx19Le4Ex2St7Xx2Ex1Le1Ex13Le1Xx34Le7Ex3Xx",
   "5Ex2St11Xx10Nu1Ex85Xx1Le79Xx922Le102Xx111Le17Xx196Le2636Xx97Le15Xx1072Le16Fo1Ex6Le15Ex10Xx",
   "3995Le5Xx583Le6841Xx30Le18Ex10Nu1734Xx569Le7Xx31Le1Xx10Nu4Xx2St79Le1Xx10Nu6Xx30Le2Xx5Ex1St",
   "10Xx48Le7Ex2St7Xx4Le1St11Xx10Nu9Xx21Le5Xx19Le432Xx45Le1Xx2St10Nu198Xx32Up32Lo24Xx1St103Xx75Le",
   "4Xx1Ex1Le55Ex7Xx4Ex13Le64Xx2Le1Xx1Le1Ex11Xx2Ex14Xx6136Le8Xx1238Le41Xx10Le8935Xx4Le1Xx7Le1Xx",
   "2Le1Xx291Le15Xx1Le29Xx3Le2Xx1Le14Xx4Le8Xx396Le2308Xx107Le5Xx13Le3Xx9Le7Xx10Le3Xx2Ex1St4Fo",
   "4172Xx10Nu518Xx46Ex2Xx23Ex542Xx5Ex3Xx6Ex8Fo8Ex2Xx7Ex30Xx4Ex148Xx3Ex443Xx26Up26Lo26Up7Lo1Xx",
   "18Lo26Up26Lo1Up1Xx2Up2Xx1Up2Xx2Up2Xx4Up1Xx8Up4Lo1Xx1Lo1Xx7Lo1Xx11Lo26Up26Lo2Up1Xx4Up2Xx8Up1Xx",
   "7Up1Xx26Lo2Up1Xx4Up1Xx5Up1Xx1Up3Xx7Up1Xx26Lo26Up26Lo26Up26Lo26Up26Lo26Up26Lo26Up26Lo26Up28Lo",
   "2Xx25Up1Xx25Lo1Xx6Lo25Up1Xx25Lo1Xx6Lo25Up1Xx25Lo1Xx6Lo25Up1Xx25Lo1Xx6Lo25Up1Xx25Lo1Xx6Lo1Up",
   "1Lo2Xx50Nu512Xx55Ex4Xx50Ex8Xx1Ex14Xx1Ex3Xx1St18Xx5Ex1Xx15Ex1104Xx10Lo1Le20Lo6Xx6Lo213Xx7Ex1Xx",
   "17Ex2Xx7Ex1Xx2Ex1Xx5Ex5Xx62Lo33Xx1Ex112Xx45Le3Xx7Ex7Le2Xx10Nu4Xx1Le321Xx30Le1Ex17Xx44Le4Ex",
   "10Nu470Xx28Le4Ex10Nu214Xx30Le2Ex1Le10Nu485Xx7Le1Xx4Le1Xx2Le1Xx15Le1Xx197Le11Xx7Ex41Xx34Up34Lo",
   "7Ex1Le4Xx10Nu1190Xx4Le1Xx27Le1Xx2Le1Xx1Le2Xx1Le1Xx10Le1Xx4Le1Xx1Le1Xx1Le6Xx1Le4Xx1Le1Xx1Le1Xx",
   "1Le1Xx3Le1Xx2Le1Xx1Le2Xx1Le1Xx1Le1Xx1Le1Xx1Le1Xx1Le1Xx2Le1Xx1Le2Xx4Le1Xx7Le1Xx4Le1Xx4Le1Xx1Le",
   "1Xx10Le1Xx17Le5Xx3Le1Xx5Le1Xx17Le628Xx26Up6Xx26Up6Xx26Up1260Xx3Cl1399Xx10Nu1030Xx42720Le32Xx",
   "4154Le6Xx222Le2Xx5762Le14Xx7473Le15Xx622Le2466Xx542Le1506Xx4939Le5Xx4192Le711761Xx1Fo30Xx96Ex",
   "128Xx240Ex196112Xx"]

/-- The cut into sentences. -/
def sentenceBreak : BreakTable where
  runs := readRuns 0 [] (sentenceText.flatMap String.toList)
  names :=
    [(["at", "aterm"], "At"), (["cl", "close"], "Cl"), (["cr"], "Cr"), (["ex", "extend"], "Ex"),
     (["fo", "format"], "Fo"), (["le", "oletter"], "Le"), (["lf"], "Lf"), (["lo", "lower"], "Lo"),
     (["nu", "numeric"], "Nu"), (["sc", "scontinue"], "Sc"), (["se", "sep"], "Se"),
     (["sp"], "Sp"), (["st", "sterm"], "St"), (["up", "upper"], "Up")]

end Wireflow.Text
