/-
Texts shown inside messages: in quotes, with the characters that cannot be shown written as escapes.
-/
import Wireflow.Text.Numeral
import Wireflow.Text.Property

namespace Wireflow.Text

/-- Characters that cannot be shown as they are: control and format characters, what is not
assigned, separators other than the blank, and characters that join the one before them. -/
def hiddenSet : CharSet :=
  ((categorySet ["Cc", "Cf", "Cs", "Co", "Cn", "Zl", "Zp", "Zs"]).diff (.single ' ')).union
    graphemeExtendSet

/-- A character inside a shown text. Those that cannot be shown are written by their number. -/
def shownChar (c : Char) : List Char :=
  match c with
  | '\x00' => ['\\', '0']
  | '\t' => ['\\', 't']
  | '\r' => ['\\', 'r']
  | '\n' => ['\\', 'n']
  | '"' => ['\\', '"']
  | '\\' => ['\\', '\\']
  | _ =>
    if hiddenSet.mem c then ['\\', 'u', '\x7b'] ++ Nat.toDigits 16 c.toNat ++ ['\x7d']
    else [c]

/-- A text in quotes as messages show it. -/
def shown (s : String) : String :=
  String.ofList ('"' :: (s.toList.flatMap shownChar ++ ['"']))

end Wireflow.Text
