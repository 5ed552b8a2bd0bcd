/-
The characters that several scripts share, or that only some other scripts than their own use.
-/
import Wireflow.Text.Script

namespace Wireflow.Text

/-- The scripts that use a code point, one after the other, from code point 0 on; "own" where that
is its own script alone. -/
def extensionText : List String :=
  ["183own1AvstCariCoptDuplElbaGeorGlagGongGothGrekHaniLatnLydiMahjPermShaw516own",
   "1BengCyrlDevaLatnLisuThaiToto10own1BopoLatn1own3BopoLatn1own1LatnLisu9own1LatnThai1own",
   "1BopoLatn38own1CherCoptCyrlGrekLatnPermSunuTale1CherCyrlGrekLatnOsgeSunuTaleTodr",
   "1CherCyrlLatnTfng1GlagLatnSunuSyrcThai1AghbCherCoptCyrlGothGrekLatnOsgeSyrcTfngTodr",
   "1CoptElbaGlagGothKanaLatn1CyrlGrekLatnPerm1CoptDuplHebrLatnPermSyrcTaleTfngTodr",
   "1ArmnCyrlDuplGothGrekHebrLatnPermSyrcTale1LatnTfng1DuplLatnSyrc1CherCyrlLatnOsge1CherLatnTale",
   "1LatnSunu1EthiLatn1own1LatnSunu1CyrlLatnTodr1own1GrekLatnPermTodr12own1LatnSyrc2own",
   "1CherDuplKanaLatnSyrc1CherDuplLatnSyrc1LatnSyrc7own1LatnSunuSyrc1LatnSyrc1own1CherLatnSyrc",
   "1AghbCherGothLatnSunuThai16own1Grek2own1Grek18own1LatnOsge5own1AghbLatnTodr4own13Latn4own",
   "2CoptGrek269own1CyrlPerm1CyrlGlag2CyrlLatn1CyrlGlag257own1ArmnGeorGlag130own",
   "1ArabGaraNkooRohgSyrcThaaYezi14own1ArabGaraNkooRohgSyrcThaaYezi1ArabSyrcThaa2own",
   "1AdlmArabGaraNkooRohgSyrcThaaYezi32own1AdlmArabMandManiOugrPhlpRohgSogdSyrc10own11ArabSyrc",
   "10own10ArabThaaYezi6own1ArabSyrc99own1ArabRohg636own",
   "1BengDevaGranGujrGuruKndaLatnMlymOryaShrdTamlTeluTirh",
   "1BengDevaGranGujrGuruKndaLatnMlymOryaTamlTeluTirh17own",
   "1BengDevaDogrGongGonmGranGujrGuruKndaMahjMlymNandOnaoOryaSindSinhSyloTakrTamlTeluTirh",
   "1BengDevaDogrGongGonmGranGujrGukhGuruKndaLimbMahjMlymNandOnaoOryaSindSinhSyloTakrTamlTeluTirh",
   "10DevaDogrKthiMahj118own10BengCakmSylo118own10GuruMult118own10GujrKhoj246own14GranTaml242own",
   "10KndaNandTutg848own10CakmMymrTale177own1GeorGlagLatn1519own3Runr71own2BuhdHanoTagbTglg203own",
   "2MongPhag1own1MongPhag1226own1BengDevaGranKnda1Deva1BengDevaGranKnda1DevaGranKnda1Deva",
   "2BengDeva1DevaShrd1BengDeva1DevaShrd1DevaKndaMlymOryaTamlTelu1Deva2DevaShrd2Deva1DevaShrd",
   "1BengDeva7Deva1DevaNand1BengDeva2Deva1BengDeva4Deva",
   "1BengDevaGranKndaMlymNandOryaSinhTeluTirhTutg1DevaGran1DevaGranKndaTutg2BengDeva1Beng",
   "2DevaGran1Nand197own2Grek54own1CyrlLatnSyrc1own1Syrc564own1LatnMongPhag31own1AdlmArab10own",
   "1CariGeorGlagHungLyciOrkh2own1CariGrekHungMero146own1DevaGranLatn3366own1CoptLatn24own",
   "1AvstOrkh1AvstCariGeorHungKthiLydiSamr10own1Dupl4own1AdlmArabHung1own1CyrlGlag428own",
   "16HaniTang1own1BopoHangHaniHiraKanaMongYiii1BopoHangHaniHiraKanaMongPhagYiii",
   "1BopoHangHaniHiraKana2own1Hani1own2BopoHangHaniHiraKanaMongTibtYiii",
   "2BopoHangHaniHiraKanaLisuMongTibtYiii6BopoHangHaniHiraKanaYiii1own1BopoHangHaniHiraKana",
   "8BopoHangHaniHiraKanaYiii4BopoHangHaniHiraKana10own4BopoHani2own1BopoHangHaniHiraKana",
   "5HiraKana1own1BopoHangHaniHiraKana4own2HaniHiraKana2Hani89own4HiraKana3own1HiraKana90own",
   "1BopoHangHaniHiraKanaYiii1HiraKana147own16Hani32own38Hani9own1HaniTang48own40Hani56own49Hani",
   "15own12Hani51own1Hani88own25Hani10own5Hani96own31Hani29296own1CyrlGlag144own8HaniLatn296own",
   "3DevaDogrGujrGuruKhojKndaKthiMahjMlymModiNandShrdSindTakrTirhTutg",
   "3DevaDogrGujrGuruKhojKndaKthiMahjModiNandShrdSindTakrTirhTutg",
   "2DevaDogrGujrGuruKhojKthiMahjModiSindTakrTirh",
   "1DevaDogrGujrGuruKhojKthiMahjModiShrdSindTakrTirh",
   "1DevaDogrGujrGuruKhojKthiMahjModiSindTakrTirh183own1BengDevaTutg1own1DevaTaml58own",
   "1KaliLatnMymr160own1BugiJava21358own2ArabNkoo178own1ArabThaa10own1ArabThaa71own",
   "2BopoHangHaniHiraKana282own5BopoHangHaniHiraKanaYiii10own1HiraKana45own2HiraKana352own",
   "2CpmnCprtLinb1CprtLinb4own45CprtLinaLinb3own9CprtLinb416own28ArabCopt2038own1ManiOugr2062own",
   "1GranTaml1own1GranTaml55own2GranTaml3219own2GranTaml1own1GranTaml40140own4Dupl5820own18Hani",
   "7902own2Hani986542own"]

/-- The runs of code points that the same scripts use, from code point 0 on. -/
def extensionRuns : List Run :=
  readRuns 0 [] (extensionText.flatMap String.toList)

/-- A script is among those that stand one after the other in a word. -/
def namesScript (script : List Char) : List Char → Bool
  | a :: b :: c :: d :: rest => [a, b, c, d] == script || namesScript script rest
  | _ => false

/-- The code points that a script uses. -/
def extensionSet (script : String) : CharSet :=
  ((scriptSet script).inter (Run.set (fun word => word == "own") extensionRuns)).union
    (Run.set (fun word => namesScript script.toList word.toList) extensionRuns)

end Wireflow.Text
