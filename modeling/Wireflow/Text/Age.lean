/-
The age of characters: the version of Unicode that assigned a code point first.
-/
import Wireflow.Text.Numeral
import Wireflow.Text.Runs

namespace Wireflow.Text

/-- The versions from code point 0 on: two letters that count from "a" for zero, one for each number
of the version. "aa" stands where nothing is assigned. -/
def ageText : List String :=
  ["502bb4da30bb8da1dc1ea18da3ea11eb14fa89bb5da2ea47bb1da10bb5da17ea70bb9da1dc8ea5eb3ea2bb1da13dc",
   "4fb2bb2fb2aa1bb3fa1bb1ha4aa7bb1aa1bb1aa20bb1aa44bb1fb7bb1da2dc1bb1da1bb1da1bb1da1bb1da18bb2db",
   "1dc5ea4eb1da12bb1da66bb1da12bb1da41bb1fb2da2dc4da53bb2dc2bb2dc2bb2dc1fa28bb2da8bb2eb2bb6fa",
   "16dc4fa16fb2fc2ga8ha1aa38bb2aa7bb1la39bb1la1bb1da2aa2ha1gb1aa17ca1eb13ca10bb1fa9bb1ca3eb8aa",
   "27bb4aa1la5bb11aa4ea1gb1ha5fb1eb1bb9ea5fb1bb1gd1oa1eb1bb1ga26bb5fb19bb3da3ea6eb1ga14bb2dc72bb",
   "2da5bb1da15bb1da30bb2ea10bb5da1ea14da1aa30da3ea27da2aa3ea30eb18fb49da1dc14aa59fa2aa3la46fc2aa",
   "15fc1aa28ga2aa1ga1aa11ka5aa31oa1aa2oa5aa1qa8oa1gb1ha11gb6ha2ia1oa8ja10na11oa1la15ja1ia27gb1ha",
   "1fc3bb1ea53bb2ga18bb1fc1ga5bb1fc2ga25bb2fb5ga1ha2fc2fa1eb2fa1ha3bb1aa8bb2aa2bb2aa22bb1aa7bb",
   "1aa1bb3aa4bb2aa1bb1ea7bb2aa2bb2aa3bb1eb8aa1bb4aa2bb1aa5bb2aa21bb1fc2ka1la2aa1ea1bb1ea1aa6bb",
   "4aa2bb2aa22bb1aa7bb1aa2bb1aa2bb1aa2bb2aa1bb1aa5bb4aa2bb2aa3bb3aa1fb7aa4bb1aa1bb7aa15bb1fb1la",
   "10aa3bb1aa7bb1ea1bb1aa3bb1aa22bb1aa7bb1aa2bb1aa5bb2aa10bb1aa3bb1aa3bb2aa1bb15aa1bb3ea2aa10bb",
   "1gb1ea7aa1ia6ka1aa3bb1aa8bb2aa2bb2aa22bb1aa7bb1aa2bb1aa1ea4bb2aa8bb1fb2aa2bb2aa3bb7aa1na2bb",
   "4aa2bb1aa3bb2fb2aa11bb1ea6ga10aa2bb1aa6bb3aa3bb1aa4bb3aa2bb1aa1bb1aa2bb3aa2bb3aa3bb3aa8bb1eb",
   "3bb4aa5bb3aa3bb1aa4bb2aa1fb6aa1bb14aa1eb12bb8ea5aa1ha3bb1la8bb1aa3bb1aa23bb1aa10bb1ha5bb2aa",
   "1oa1fb7bb1aa3bb1aa4bb7aa2bb1aa2fb1ia2aa1oa2aa2bb2fb2aa10bb7aa1ma8fb1ja1ha2bb1la8bb1aa3bb1aa",
   "23bb1aa10bb1aa5bb2aa2ea7bb1aa3bb1aa4bb7aa2bb6aa1oa1bb1aa2bb2fa2aa10bb1aa2fa1pa12aa1ka1ha2bb",
   "1na8bb1aa3bb1aa23bb1ga16bb1ga2ka1fb6bb1fb1aa3bb1aa4bb1ga1ja4aa3ja1bb7ja1ia2bb2fb2aa10bb6fb3ja",
   "7fb1aa1na2da1aa18da3aa24da1aa9da1aa1da2aa7da3aa1da4aa6da1aa1da1aa8da6aa10ha2aa3da12aa58bb4aa",
   "29bb37aa2bb1aa1bb1aa1ma2bb1ma1bb1aa1ma1bb6ma4bb1ma7bb1ma3bb1aa1bb1aa1bb2ma2bb1ma13bb1ma3bb2aa",
   "5bb1aa1bb1aa6bb1pa1aa10bb2aa2bb2gb32aa72ca1aa33ca1da2fb4aa27ca4ga6ca1da1ca1aa21ca3da7ca1da1ca",
   "3da1aa15da1aa1fb1da2eb3fb4fc2ga37aa34da1fb5da1fb2da1fb7da3fb4da6fb26da64fb4fc2fb38bb1aa1gb5aa",
   "1gb2aa39bb2dc2eb1bb1eb3gb90bb5fc68bb5fc82bb6fc7da1eb63da1eb1da1aa4da2aa7da1aa1da1aa4da2aa39da",
   "1eb1da1aa4da2aa31da1eb1da1aa4da2aa7da1aa1da1aa4da2aa7da1eb7da1aa23da1eb31da1eb1da1aa4da2aa7da",
   "1eb39da1eb19da2aa2ga2eb28da3aa26eb6aa85da1ia2aa6ia2aa1fc630da9fc29da3aa81da8ha7aa13dc1oa7dc",
   "1oa9aa1oa23dc9aa20dc12aa13dc1aa3dc1aa2dc12aa93da1ea2aa10da6aa10ea6aa15da1oa10da6aa88da1la7aa",
   "42da1fb5aa70fc10aa29ea2ha1aa12ea4aa12ea4aa1ea3aa42ea2aa5ea11aa42eb2fc4aa26eb6aa10eb1fc3aa2eb",
   "32ea28eb2aa2eb63fc1aa29fc2aa11fc6aa10fc6aa14fc2aa15ha2na14oa49aa76fa1oa1aa2qa45fa2oa1qa43fb",
   "3gb12fb6gb52ga8aa4ga56fb3aa15fb3aa51fb9ja2qa5aa43la2aa3la8gb8aa35fc4gb1ka2ha1ma5aa108ea88eb",
   "7fa28fb15ha4ka1oa1ja1ga1fc2fa155bb1ca4fb90bb6fb22bb2aa6bb2aa38bb2aa6bb2aa8bb1aa1bb1aa1bb1aa",
   "1bb1aa31bb2aa53bb1aa15bb1aa14bb2aa6bb1aa19bb2aa3bb1aa9bb1aa47bb1da23bb1dc6da5dc2ea2eb1dc7eb",
   "5dc1fb1aa4gd7bb1dc2aa27bb1aa5eb8ga3aa11bb1ca1cb3da2dc4eb3fc1ga1gc3ha1ia1ka1oa15aa18bb2da7dc",
   "1eb4fa1fb15aa57bb2da1ea1eb15dc1eb2fa1fb3fc48bb1da1fa4fb1fc2ia4aa91bb9da12dc242bb14dc1bb1da",
   "121bb1da1dc30da52dc2ea11eb12fa1fc11ga7ha4ja1ka37bb2da3qa22aa11bb21aa139bb20dc1ea150bb10dc80bb",
   "8da8dc20bb2ea2dc1eb1da86bb2da12dc2eb10dc8ea11eb1fb2fc2ea16eb1fa10fb3fc4fb10fc1ga19fc1ga1fc4ga",
   "24fc1ha4bb1ga4bb2ga28bb1ga35bb1ga1bb1ga4bb3ga1bb1fc7bb2ga7bb14dc31bb3ga24bb1ga14bb1ga7eb4fa",
   "1gb1fb1gb2ga28dc4fb16dc256da512dc14ea6eb7fa5fb4fa41fb3ha5fb5fc26ha2aa32ha1aa1na34ha3la12ha1ma",
   "8ha1ka25la4ia15la1ma47eb1oa47eb1oa13fa3fb1fc3fb4fa6fb2fc107eb7fc2gb5aa45eb1aa1gb5aa1gb2aa54eb",
   "2gb7aa1eb1ga14aa1ga23eb9aa7eb1aa7eb1aa7eb1aa7eb1aa7eb1aa7eb1aa7eb1aa7eb1aa32fb24eb4fb2eb19fb",
   "1fc10gb7ha2ja5ka5la1ma3na11oa34aa26da1aa89da12aa214da26aa12da4pb56bb3da3dc1da1bb1aa84bb2dc2aa",
   "6bb2dc94bb1dc5aa40bb1fb1ka1la1aa94bb1aa16bb24da3ga5na16eb20fb2qa9aa1pb16dc29bb2ea1aa36bb12fc",
   "1ea15dc28bb2ea1eb50bb15dc12bb4ea47bb1mb119bb4ea99bb2ea31bb1ea6582da10na64ea20902bb22eb8fb8fc",
   "1gb9ia21ka5la13na3oa1165da3aa18da2dc16da1dc12da1dc3da1dc1da9aa48fc300fb20aa32fb2ga18fb8gb28fb",
   "6ha1ia1gb88fc8aa23eb4fa5fb2fa107fb2ga1ia2ga2gb12ha10ga1gb3ha1ja1la2ha6ia2la6ma2oa5ma4na3qa2aa",
   "2oa1aa1oa1aa5oa3qa21aa3oa2na1ha2gb1ga5fb44eb1na3aa10fc6aa56fa8aa69fb1ja8aa12fb6aa28fc2ia2la",
   "84fb11aa1fb29fc3aa78fc1aa11fc4aa2fc31ha1aa55fb9aa14fb2aa10fb2aa4fb28fc4ha67fc24aa5fc23gb10aa",
   "6ga2aa6ga2aa6ga9aa7ga1aa7ga1aa48ha4ia2ha2ma4na4aa80ia46fc2aa10fc6aa11172ca12aa23fc4aa49fc",
   "2052aa6702bb2gb59dc3fc2aa106eb38aa7bb12aa5bb5aa1da25bb1aa5bb1aa1bb1aa2bb1aa2bb1aa108bb16ga1oa",
   "16aa365bb16oa64bb2aa54bb7aa1oa32db12bb1dc1ea2oa16dc10eb6aa4bb3fb7ha2ia21bb2dc2ea10bb1aa19bb",
   "1aa4bb4aa3bb1dc1bb1aa135bb2aa1bb1aa94bb2dc94bb3aa6bb2aa6bb2aa6bb2aa3bb3aa7bb1aa7bb10aa3da1cb",
   "3bb12ea1aa26ea1aa19ea1aa2ea1aa15ea2aa14ea34aa123ea5aa3ea4aa45ea3aa9ea75eb2ha2ja1aa12fb1na3aa",
   "1ha47aa46fb130aa29fb3aa49fb15aa28ha4aa31db1ha4db9aa3ka27db5aa43ha5aa30ea1aa1ea36eb4aa14eb42aa",
   "38db2ea38db80ea2aa10ea6aa36ja4aa36ja4aa40ha8aa52ha11aa1ha11oa1aa15oa1aa7oa1aa2oa1aa11oa1aa",
   "15oa1aa7oa1aa2oa3aa52qa12aa311ha9aa22ha10aa8ha24aa6oa1aa42oa1aa9oa69aa6ea2aa1ea1aa44ea1aa2ea",
   "3aa1ea2aa1ea22fc1aa9fc63ha8aa9ha48aa19ia1aa2ia5aa5ia26fa2fc3aa1fa26fb5aa1fb64aa56gb4aa2ia2gb",
   "16ia2aa46ia4eb1aa2eb5aa8eb1aa3eb1aa27eb2la2aa3eb4aa9eb1la7aa9eb7aa32fc32ha32aa39ha4aa12ha9aa",
   "54fc3aa29fc2aa27fc5aa8fc18ha7aa4ha12aa7ha80aa73fc55aa51ia13aa51ia7aa6ia40la8aa10la6aa38qa3aa",
   "29qa8aa2qa208aa31fc1aa42na1aa3na2aa2na16aa3qa55aa1qa3pa40la8aa42la22aa26oa38aa28na20aa23ma9aa",
   "78ga4aa30ga6oa9aa1ha66fc1oa10aa1la2aa25gb7aa10gb6aa53gb1aa14gb3la1na8aa39ha9aa73gb4ia1ha2na",
   "10gb1ha5ia1aa20ha11aa18ha1aa43ha1ja3pa62aa7ia1aa1ia1aa4ia1aa15ia1aa11ia6aa59ha5aa10ha6aa1ia",
   "3ha1aa8ha2aa2ha2aa22ha1aa7ha1aa2ha1aa5ha1aa1la9ha2aa2ha2aa3ha2aa1ia6aa1ha5aa7ha2aa7ha3aa5ha",
   "11aa10qa1aa1qa2aa1qa1aa38qa1aa10qa1aa1qa2aa1qa1aa4qa1aa10qa1aa2qa8aa2qa29aa90ja1na1ja1aa1ja",
   "1la1ma2na30aa72ha8aa10ha166aa54ha2aa18ha20ia34aa69ha11aa10ha6aa13ja19aa56gb1ma1oa6aa10gb6aa",
   "20qa28aa26ia1la2aa15ia4aa16ia7oa185aa60la100aa83ha12aa1ha7na2aa1na2aa8na1aa2na1aa30na1aa2na",
   "2aa12na9aa10na70aa8ma2aa46ma2aa11ma27aa72ka8aa52ka2ma23ka1la5ka13aa16oa57ha7aa10pa182aa34qa",
   "14aa10qa6aa9ja1aa45ja1aa14ja10aa29ja3aa32ja2aa22ja1aa14ja73aa7ka1aa2ka1aa44ka3aa1ka1aa2ka1aa",
   "9ka8aa10ka6aa6la1aa2la1aa37la1aa2la1aa6la7aa10la310aa25la7aa17pa1aa41pa3aa28pa1qa85aa1na15aa",
   "50ma13aa1ma879fa42ha1ia102aa99fa12ha1aa4fa1ha11aa196ia2636aa99oa13aa1071fc1pa9ma29pa10aa",
   "3995qa5aa583ia6841aa58qa1734aa569ga7aa31ha1aa10ha4aa2ha79oa1aa10oa6aa30ha2aa6ha10aa70ha10aa",
   "10ha1aa7ha1aa21ha5aa19ha432aa58qa198aa91la101aa69gb6ma4aa1ma47gb9ma7aa17gb64aa1ja1ka2ma1na",
   "11aa2na14aa6125ja5la6ma8aa755ja483na41aa1qa9na8935aa4oa1aa7oa1aa2oa1aa2ga285ka4oa15aa1pa29aa",
   "3ma2aa1pa14aa4ma8aa396ka2308aa107ha5aa13ha3aa9ha7aa10ha2aa8ha3932aa250qa6aa436qa76aa46oa2aa",
   "23oa9aa116oa60aa246db10aa39db2aa1fb180db11ia2oa21aa70eb122aa20pa12aa20la12aa87ea9aa18fa7la",
   "135aa85db1aa71db1aa2db2aa1db2aa2db2aa4db1aa12db1aa1db1aa4db1ea2db1aa65db1aa4db2aa8db1aa7db1aa",
   "28db1aa4db1aa5db1aa1db3aa7db1aa338db2eb2aa290db2fa2aa50db652ia15aa5ia1aa15ia1104aa31oa6aa6pa",
   "213aa7ja1aa17ja2aa7ja1aa2ja1aa5ja5aa62pa33aa1pa112aa45ma3aa14ma2aa10ma4aa2ma320aa31oa17aa58ma",
   "5aa1ma464aa42pa214aa43qa4aa1qa480aa7oa1aa4oa1aa2oa1aa15oa1aa197ha2aa16ha41aa75ja1ma4aa10ja4aa",
   "2ja785aa68la76aa61ma194aa4gb1aa27gb1aa2gb1aa1gb2aa1gb1aa10gb1aa4gb1aa1gb1aa1gb6aa1gb4aa1gb1aa",
   "1gb1aa1gb1aa3gb1aa2gb1aa1gb2aa1gb1aa1gb1aa1gb1aa1gb1aa1gb1aa2gb1aa1gb2aa4gb1aa7gb1aa4gb1aa4gb",
   "1aa1gb1aa10gb1aa17gb5aa3gb1aa5gb1aa17gb52aa2gb270aa44fb4aa100fb12aa15ga2aa14ga1ha1aa15ga1aa",
   "15ga22ha10aa11fc2ha3na31fc1la1ga1fc11ga1fc1ga1fc2ga1fc3ga1fc3ga5fc8ga1fc7ga1fc10ga2gb1ma3na",
   "9ga1fc1ga2fc2ga1fc10ga4fc2ga1fc10ga18ja1na56aa26ga1fc2ga13aa34fc9ga1ja4aa9fc7aa2ga14aa6ka",
   "154aa33ga12ha3ia6ga1ha70ga1ha2ia20ga12ha37ga1ha5ga4ha5ia12ha17ga7ha8ia63ga1ha1ga1ha182ga1ha",
   "4ga2ha1ia62ga2ha4gb7ha5ia24ga18ha1ja41ha1ja86ha5ga1gb16ga1gb3ga1gb1ga1gb1ga1gb1ga1gb3ga1gb6ga",
   "2gb4ga1gb1ga2gb4ga1gb12ga2ha2ia11ga48ha70ga10ha1ia2ja2ka1ma2na4aa1pa3oa13ha3aa4ha3ja2ka1la1ma",
   "2na3aa116ga3pa4aa5pa85ha4la1pa6aa12ma4aa1oa15aa12ha4aa56ha8aa10ha6aa40ha8aa30ha2aa2na10qa4aa",
   "2qa62aa12ka1na3ma9ia6ja1ka8ja8ka1ja2ka12ja1ma12ja1ka3la15ja13ka5la1ma1na4la2na1oa1la1ma4la5ia",
   "13ja6ka11la2na6ma3na2ma10la6ma1ia2la8ma1na1oa3ma23ka25la84ma12aa14la2aa4ma1na3pa3ma2oa3aa3ma",
   "4na2pa1qa5aa1qa6ma19na4oa3pa7na4oa3pa1qa1pa3na3oa1qa7aa2pa7na3oa2pa1qa2aa1qa8oa1pa1qa6aa7oa",
   "2pa7aa147na1aa55na37qa10na1028aa2ca42711db7na2oa32aa4149fc4oa1pa6aa222ga2aa5762ia14aa7473ka",
   "15aa622pb2466aa542db1504aa2ca4939na5aa4192pa56398aa2ca65534aa2ca65534aa2ca65534aa2ca65534aa",
   "2ca65534aa2ca65534aa2ca65534aa2ca65534aa2ca65534aa2ca65534aa2ca1aa1db30aa96db128aa240ea",
   "65038aa131074ca"]

/-- The runs of one age, from code point 0 on. -/
def ageRuns : List Run :=
  readRuns 0 [] (ageText.flatMap String.toList)

/-- A version of Unicode. -/
structure Version where
  major : Nat
  minor : Nat
deriving DecidableEq

namespace Version

/-- The versions that assigned code points. -/
def all : List Version :=
  [(1, 1), (2, 0), (2, 1), (3, 0), (3, 1), (3, 2), (4, 0), (4, 1), (5, 0), (5, 1), (5, 2), (6, 0),
   (6, 1), (6, 2), (6, 3), (7, 0), (8, 0), (9, 0), (10, 0), (11, 0), (12, 0), (12, 1), (13, 0),
   (14, 0), (15, 0), (15, 1), (16, 0)].map fun v => ⟨v.1, v.2⟩

/-- The letters that stand for a version in the table. -/
def word (v : Version) : String :=
  String.ofList [Char.ofNat (97 + v.major), Char.ofNat (97 + v.minor)]

/-- The names of a version: two numbers with a point between them, or without one after a "v". -/
def names (v : Version) : List String :=
  [decimal v.major ++ "." ++ decimal v.minor, "v" ++ decimal v.major ++ decimal v.minor]

/-- The version was before another, or is the other. -/
def upTo (v last : Version) : Bool :=
  v.major < last.major || (v.major == last.major && v.minor ≤ last.minor)

end Version

/-- The code points that are assigned in a version. -/
def ageSet (v : Version) : CharSet :=
  Run.set ((Version.all.filter (Version.upTo · v)).map Version.word).contains ageRuns

end Wireflow.Text
