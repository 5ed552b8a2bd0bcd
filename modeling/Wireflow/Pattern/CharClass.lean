/-
The classes of characters that patterns know by name: those of ASCII, and those of Unicode by
property, category, script, age and part in a cut.
-/
import Wireflow.Text.Age
import Wireflow.Text.CaseFold
import Wireflow.Text.Property
import Wireflow.Text.ScriptExtension

namespace Wireflow.CharClass

/-! ## ASCII -/

/-- The classes of ASCII by their names. -/
def asciiClasses : List (String × List (Nat × Nat)) :=
  [("alnum", [(0x30, 0x39), (0x41, 0x5A), (0x61, 0x7A)]),
   ("alpha", [(0x41, 0x5A), (0x61, 0x7A)]),
   ("ascii", [(0x00, 0x7F)]),
   ("blank", [(0x09, 0x09), (0x20, 0x20)]),
   ("cntrl", [(0x00, 0x1F), (0x7F, 0x7F)]),
   ("digit", [(0x30, 0x39)]),
   ("graph", [(0x21, 0x7E)]),
   ("lower", [(0x61, 0x7A)]),
   ("print", [(0x20, 0x7E)]),
   ("punct", [(0x21, 0x2F), (0x3A, 0x40), (0x5B, 0x60), (0x7B, 0x7E)]),
   ("space", [(0x09, 0x0D), (0x20, 0x20)]),
   ("upper", [(0x41, 0x5A)]),
   ("word", [(0x30, 0x39), (0x41, 0x5A), (0x5F, 0x5F), (0x61, 0x7A)]),
   ("xdigit", [(0x30, 0x39), (0x41, 0x46), (0x61, 0x66)])]

/-- The class of ASCII of a name. -/
def ascii? (name : String) : Option CharSet :=
  (asciiClasses.find? fun e => e.1 == name).map fun e => ⟨e.2⟩

/-- The digits of ASCII. -/
def asciiDigits : CharSet := ⟨[(0x30, 0x39)]⟩

/-- The blanks of ASCII. -/
def asciiBlanks : CharSet := ⟨[(0x09, 0x0D), (0x20, 0x20)]⟩

/-- The characters of words in ASCII. -/
def asciiWord : CharSet := ⟨[(0x30, 0x39), (0x41, 0x5A), (0x5F, 0x5F), (0x61, 0x7A)]⟩

/-! ## Unicode -/

/-- A name without blanks, strokes, case and characters beyond ASCII, and without an "is" that comes
first, except that "isc" stays what it is. -/
def normalized (name : String) : String :=
  let plain (cs : List Char) : List Char :=
    (cs.filter fun c => c.toNat < 0x80 && !(c == ' ' || c == '_' || c == '-')).map Char.toLower
  String.ofList (match name.toList with
    | i :: s :: rest =>
      if i.toLower == 'i' && s.toLower == 's' then
        if plain rest == ['c'] then ['i', 's', 'c'] else plain rest
      else plain (i :: s :: rest)
    | cs => plain cs)

/-- The general categories by their names. -/
def categoryNames : List (List String × List String) :=
  [(["l", "letter"], Text.letterCategories),
   (["lc", "casedletter"], ["Lu", "Ll", "Lt"]),
   (["lu", "uppercaseletter"], ["Lu"]), (["ll", "lowercaseletter"], ["Ll"]),
   (["lt", "titlecaseletter"], ["Lt"]), (["lm", "modifierletter"], ["Lm"]),
   (["lo", "otherletter"], ["Lo"]),
   (["m", "mark", "combiningmark"], Text.markCategories), (["mn", "nonspacingmark"], ["Mn"]),
   (["mc", "spacingmark"], ["Mc"]), (["me", "enclosingmark"], ["Me"]),
   (["n", "number"], ["Nd", "Nl", "No"]), (["nd", "decimalnumber", "digit"], ["Nd"]),
   (["nl", "letternumber"], ["Nl"]), (["no", "othernumber"], ["No"]),
   (["p", "punctuation", "punct"], ["Pc", "Pd", "Ps", "Pe", "Pi", "Pf", "Po"]),
   (["pc", "connectorpunctuation"], ["Pc"]), (["pd", "dashpunctuation"], ["Pd"]),
   (["ps", "openpunctuation"], ["Ps"]), (["pe", "closepunctuation"], ["Pe"]),
   (["pi", "initialpunctuation"], ["Pi"]), (["pf", "finalpunctuation"], ["Pf"]),
   (["po", "otherpunctuation"], ["Po"]),
   (["s", "symbol"], ["Sm", "Sc", "Sk", "So"]), (["sm", "mathsymbol"], ["Sm"]),
   (["sc", "currencysymbol"], ["Sc"]), (["sk", "modifiersymbol"], ["Sk"]),
   (["so", "othersymbol"], ["So"]),
   (["z", "separator"], ["Zs", "Zl", "Zp"]), (["zs", "spaceseparator"], ["Zs"]),
   (["zl", "lineseparator"], ["Zl"]), (["zp", "paragraphseparator"], ["Zp"]),
   (["c", "other"], ["Cc", "Cf", "Cs", "Co", "Cn"]), (["cc", "control", "cntrl"], ["Cc"]),
   (["cf", "format"], ["Cf"]), (["co", "privateuse"], ["Co"]), (["cn", "unassigned"], ["Cn"])]

/-- The general category of a normalized name. -/
def category? (name : String) : Option CharSet :=
  match name with
  | "any" => some (.range 0 CharSet.lastPoint)
  | "ascii" => some (.range 0 0x7F)
  | "assigned" => some (Text.categorySet ["Cn"]).compl
  | _ => (categoryNames.find? fun e => e.1.contains name).map fun e => Text.categorySet e.2

/-- The script of a normalized name, as the word that the tables have for it. -/
def scriptWord? (name : String) : Option String :=
  match Text.scriptNames.find? fun e => normalized e.1 == name || normalized e.2 == name with
  | some e => some e.1
  | none => (Text.scriptAliases.find? fun e => normalized e.1 == name).map (·.2)

/-- The script of a normalized name. -/
def script? (name : String) : Option CharSet :=
  (scriptWord? name).map Text.scriptSet

/-- The property of a normalized name that characters have or do not have. -/
def property? (name : String) : Option CharSet :=
  (Text.propertyNames.find? fun e => e.1.contains name).map fun e => Text.propertySet e.2

/-- What is assigned in the version of a normalized name. -/
def age? (name : String) : Option CharSet :=
  (Text.Version.all.find? fun v => v.names.contains name).map Text.ageSet

/-- The class of a name alone: a property, a category or a script. -/
def ofName? (name : String) : Option CharSet :=
  let name := normalized name
  match property? name with
  | some s => some s
  | none =>
    match category? name with
    | some s => some s
    | none => script? name

/-- The class of a property and its value. -/
def ofNameValue? (property value : String) : Option CharSet :=
  let value := normalized value
  match normalized property with
  | "gc" => category? value
  | "generalcategory" => category? value
  | "sc" => script? value
  | "script" => script? value
  | "scx" => (scriptWord? value).map Text.extensionSet
  | "scriptextensions" => (scriptWord? value).map Text.extensionSet
  | "age" => age? value
  | "gcb" => Text.graphemeBreak.find? value
  | "graphemeclusterbreak" => Text.graphemeBreak.find? value
  | "wb" => Text.wordBreak.find? value
  | "wordbreak" => Text.wordBreak.find? value
  | "sb" => Text.sentenceBreak.find? value
  | "sentencebreak" => Text.sentenceBreak.find? value
  | _ => none

end Wireflow.CharClass
